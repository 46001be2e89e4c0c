import Caretaker.Http.MediaType
import Caretaker.Http.Target
import Caretaker.Json.Wire

/-!
# Requests and replies

A request has a method, a path, headers and a body.  A reply has a status, perhaps
the methods that would have been allowed, and perhaps a body, which is JSON or a
text for people.
-/

namespace Caretaker.Http

open Text

/-- A well-formed request.  `path` is not decoded. -/
structure Request where
  method : String
  path : String
  headers : List (String × String)
  body : List UInt8

/-- The text can be a method or a header name. -/
def isName (text : String) : Bool :=
  !text.isEmpty && text.toList.all isToken

/-- The text can be the value of a header. -/
def isHeaderValue (text : String) : Bool :=
  text.toList.all fun c => c == '\t' || (32 ≤ c.toNat && c.toNat != 127)

/-- The value of a header is plain text. -/
def isPlainValue (text : String) : Bool :=
  text.toList.all fun c => c == '\t' || (32 ≤ c.toNat && c.toNat < 127)

namespace Request

/-- The request with these parts, if they are well-formed. -/
def of? (method target : String) (headers : List (String × String)) (body : List UInt8) :
    Option Request :=
  if isName method ∧ headers.all fun header => isName header.1 && isHeaderValue header.2 then
    (targetPath? target).map fun path => { method, path, headers, body }
  else none

/-- The value of the first header of a name, if it is plain text. -/
def header? (request : Request) (name : String) : Option String :=
  ((request.headers.find? fun header => eqIgnoringAsciiCase header.1 name).map Prod.snd).filter
    isPlainValue

/-- The request announces a JSON body. -/
def announcesJson (request : Request) : Bool :=
  match request.header? "content-type" with
  | some type => isJsonType type
  | none => false

end Request

/-- What a reply carries. -/
inductive Body where
  | json (value : Json)
  | text (message : String)

/-- A reply. -/
structure Reply where
  status : Nat
  allow : Option String := none
  body : Option Body := none

/-- The reply without what it carries. -/
def Reply.bare (reply : Reply) : Reply :=
  { reply with body := none }

end Caretaker.Http
