import Caretaker.Text.Digits

/-!
# Request targets

The target of a request is a path, perhaps with a query and a fragment behind it.
Only the path decides what is answered.  It is cut at its slashes first; a part
that carries a value is decoded afterwards, so an encoded slash does not divide.
-/

namespace Caretaker.Http

open Text

/-- The code lies between two bounds, both included. -/
def within (low high code : Nat) : Bool :=
  low ≤ code && code ≤ high

/-- Characters that may stand in a path as they are. -/
def isPathChar (c : Char) : Bool :=
  let code := c.toNat
  code == 0x21 || code == 0x22 || within 0x24 0x3B code || code == 0x3D ||
    within 0x40 0x5F code || (0x61 ≤ code && code != 0x7F)

/-- Characters that may stand in a query as they are. -/
def isQueryChar (c : Char) : Bool :=
  let code := c.toNat
  code == 0x21 || within 0x24 0x3B code || code == 0x3D || (0x3F ≤ code && code != 0x7F)

/-- The longest target, in bytes. -/
def longestTarget : Nat := 65534

/-- What stands before a fragment. -/
def beforeFragment (cs : List Char) : List Char :=
  cs.takeWhile fun c => c != '#'

/-- The path of a target, if the target is well-formed. -/
def targetPath? (target : String) : Option String :=
  let cs := target.toList
  let path := cs.takeWhile fun c => c != '?' && c != '#'
  let query := match cs.drop path.length with
    | '?' :: rest => beforeFragment rest
    | _ => []
  if cs.head? = some '/' ∧ target.utf8ByteSize ≤ longestTarget ∧
      path.all isPathChar ∧ query.all isQueryChar then
    some (String.ofList path)
  else none

/-- The parts of a path between its slashes, without the empty part before the
first. -/
def segments (path : String) : List String :=
  (path.splitOn "/").drop 1

/-- The byte that a percent sign and two hexadecimal digits write. -/
def escaped? (mark high low : UInt8) : Option UInt8 :=
  if mark == 0x25 then
    match hexDigit? (Char.ofNat high.toNat), hexDigit? (Char.ofNat low.toNat) with
    | some h, some l => some (h * 16 + l).toUInt8
    | _, _ => none
  else none

/-- Bytes with every percent sign and its two hexadecimal digits replaced by the
byte they write.  A percent sign before anything else stands for itself. -/
def percentDecode : List UInt8 → List UInt8
  | mark :: high :: low :: rest => match escaped? mark high low with
      | some byte => byte :: percentDecode rest
      | none => mark :: percentDecode (high :: low :: rest)
  | byte :: rest => byte :: percentDecode rest
  | [] => []

/-- The value that a part of a path carries, if its bytes are text. -/
def segmentValue? (segment : String) : Option String :=
  String.fromUTF8? ⟨(percentDecode segment.toUTF8.toList).toArray⟩

end Caretaker.Http
