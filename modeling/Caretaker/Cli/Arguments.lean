import Caretaker.Logging
import Caretaker.Uuid

/-!
# Command lines

A command line is read from left to right.  It goes down a tree of commands; at
each level options may stand, and at a leaf arguments by position.  An argument is
held back until the next one shows that it is complete, and only then is its value
read.  So the first mistake that is noticed is not always the first that was made.

After two hyphens everything is an argument by position.
-/

namespace Caretaker.Cli

/-- What is wrong with a command line, or what it asks for instead of a command. -/
inductive UsageKind where
  | help
  | version
  /-- No command and nothing else. -/
  | bare
  | missingCommand
  | unknownCommand
  | unknownArgument
  | missingArgument
  /-- A value that cannot be read. -/
  | malformedValue
  /-- A value that is none of those allowed, or no value at all. -/
  | invalidValue
  /-- A value for an option that takes none. -/
  | excessValue
  | repeatedOption
  deriving DecidableEq

/-- How a mistake is explained. -/
def UsageKind.message : UsageKind → String
  | .help => "usage: options, then a command with its arguments"
  | .version => ""
  | .bare | .missingCommand => "error: a command is missing"
  | .unknownCommand => "error: there is no such command"
  | .unknownArgument => "error: unexpected argument"
  | .missingArgument => "error: an argument is missing"
  | .malformedValue | .invalidValue => "error: invalid value"
  | .excessValue => "error: unexpected value for an option"
  | .repeatedOption => "error: an option is given more than once"

/-- A command line that names no command to run, and the commands it got to. -/
structure Usage where
  kind : UsageKind
  path : List String
  deriving DecidableEq

/-- The exit code of a run that ends this way. -/
def Usage.exitCode (usage : Usage) : Nat :=
  match usage.kind with
  | .help | .version => 0
  | _ => 2

/-- Shells that completions are written for. -/
inductive Shell where
  | bash
  | elvish
  | fish
  | powershell
  | zsh
  deriving DecidableEq

/-- The name of a shell. -/
def Shell.name : Shell → String
  | .bash => "bash"
  | .elvish => "elvish"
  | .fish => "fish"
  | .powershell => "powershell"
  | .zsh => "zsh"

/-- The shell with a name. -/
def Shell.ofName? (name : String) : Option Shell :=
  [bash, elvish, fish, powershell, zsh].find? fun shell => shell.name == name

/-! ## Values -/

/-- What an argument stands for. -/
inductive ArgumentKind where
  | text
  | path
  | id
  | port
  | logFormat
  | shell
  deriving DecidableEq

/-- The value of an argument. -/
inductive Argument where
  | text (value : String)
  | id (value : Uuid)
  | number (value : Nat)
  | logFormat (value : LogFormat)
  | shell (value : Shell)

/-- The integer that a text writes, with a sign allowed. -/
def integer? (text : String) : Option Int :=
  match text.toList with
  | '-' :: digits => (Text.natOfDecimal? digits).map fun n => -(n : Int)
  | '+' :: digits => (Text.natOfDecimal? digits).map fun n => (n : Int)
  | digits => (Text.natOfDecimal? digits).map fun n => (n : Int)

/-- The first number that is no port. -/
def firstNonPort : Nat := 65536

/-- A value, or the error it is reported with. -/
def valueOr (kind : UsageKind) : Option Argument → Except UsageKind Argument
  | some value => .ok value
  | none => .error kind

/-- Read an argument. -/
def ArgumentKind.read (kind : ArgumentKind) (text : String) : Except UsageKind Argument :=
  match kind with
  | .text => .ok (.text text)
  | .path => if text.isEmpty then .error .invalidValue else .ok (.text text)
  | .id => valueOr .malformedValue ((Uuid.parse? text).map .id)
  | .port => valueOr .malformedValue <|
      ((integer? text).filter fun (n : Int) => 0 ≤ n ∧ n < firstNonPort).map fun n => .number n.toNat
  | .logFormat => valueOr .malformedValue ((LogFormat.parse text).toOption.map .logFormat)
  | .shell => valueOr .invalidValue ((Shell.ofName? text).map .shell)

/-! ## Options and commands -/

/-- What an option does. -/
inductive OptionAction where
  | switch
  | count
  | takes (kind : ArgumentKind)
  | help
  | version
  deriving DecidableEq

/-- An option, with its name and perhaps a letter. -/
structure OptionSpec where
  name : String
  letter : Option Char
  action : OptionAction

/-- Values of options by name.  A switch that is on counts as 1. -/
abbrev Options := List (String × Argument)

/-- A tree of commands that end in values of `α`.  A leaf makes its value from its
arguments, or has too few of them. -/
inductive CommandTree (α : Type) where
  | group (name : String) (members : List (CommandTree α))
  | leaf (name : String) (options : List OptionSpec) (arguments : List ArgumentKind)
      (build : List Argument → Options → Option α)

namespace CommandTree

variable {α : Type}

/-- The word of a command. -/
def name : CommandTree α → String
  | .group name _ => name
  | .leaf name .. => name

/-- The options of a command's own. -/
def options : CommandTree α → List OptionSpec
  | .group .. => []
  | .leaf _ options .. => options

/-- The arguments of a command by position. -/
def arguments : CommandTree α → List ArgumentKind
  | .group .. => []
  | .leaf _ _ arguments _ => arguments

/-- The commands below. -/
def members : CommandTree α → List (CommandTree α)
  | .group _ members => members
  | .leaf .. => []

/-- There are commands below. -/
def isGroup : CommandTree α → Bool
  | .group .. => true
  | .leaf .. => false

/-- The command below with a name. -/
def member? (tree : CommandTree α) (name : String) : Option (CommandTree α) :=
  tree.members.find? fun member => member.name == name

end CommandTree

/-! ## Reading one level -/

/-- An argument that is held back. -/
inductive Pending where
  | option (spec : OptionSpec) (kind : ArgumentKind) (value : Option String)
  | argument (kind : ArgumentKind) (value : String)

/-- What has been read at one level. -/
structure Level where
  given : Options
  arguments : List Argument
  /-- How many arguments by position have been met, the one held back included. -/
  met : Nat
  pending : Option Pending
  /-- Two hyphens have been met. -/
  trailing : Bool

namespace Level

/-- Nothing has been read. -/
def start : Level :=
  ⟨[], [], 0, none, false⟩

/-- The option was given before. -/
def has (level : Level) (spec : OptionSpec) : Bool :=
  (level.given.lookup spec.name).isSome

/-- Take the value of an option. -/
def setOption (level : Level) (spec : OptionSpec) (kind : ArgumentKind) (text : String) :
    Except UsageKind Level :=
  if level.has spec then .error .repeatedOption
  else match kind.read text with
    | .ok value => .ok { level with given := (spec.name, value) :: level.given }
    | .error e => .error e

/-- Read what is held back. -/
def settle (level : Level) : Except UsageKind Level :=
  match level.pending with
  | none => .ok level
  | some (.option _ _ none) => .error .invalidValue
  | some (.option spec kind (some text)) =>
      { level with pending := none }.setOption spec kind text
  | some (.argument kind text) => match kind.read text with
      | .ok value =>
          .ok { level with pending := none, arguments := level.arguments ++ [value] }
      | .error e => .error e

/-- The option for which a value is awaited. -/
def awaited? (level : Level) : Option (OptionSpec × ArgumentKind) :=
  match level.pending with
  | some (.option spec kind none) => some (spec, kind)
  | _ => none

/-- The largest count of an option. -/
def largestCount : Nat := 255

/-- One more occurrence of a counted option. -/
def countUp (level : Level) (spec : OptionSpec) : Level :=
  let count := match level.given.lookup spec.name with
    | some (.number n) => n
    | _ => 0
  { level with given := (spec.name, .number (min (count + 1) largestCount)) :: level.given }

/-- Meet an option without a value attached to it. -/
def meet (level : Level) (spec : OptionSpec) : Except UsageKind Level := do
  let level ← level.settle
  match spec.action with
  | .switch => if level.has spec then throw .repeatedOption else return level.countUp spec
  | .count => return level.countUp spec
  | .takes kind => return { level with pending := some (.option spec kind none) }
  | .help => throw .help
  | .version => throw .version

/-- Meet an option with a value attached to it. -/
def meetWith (level : Level) (spec : OptionSpec) (text : String) : Except UsageKind Level :=
  match spec.action with
  | .takes kind => do
      let level ← level.settle
      level.setOption spec kind text
  | _ => throw .excessValue

/-- Meet an option by its name. -/
def meetLong (level : Level) (options : List OptionSpec) (name : String) (value : Option String) :
    Except UsageKind Level :=
  match options.find? fun spec => spec.name == name, value with
  | none, _ => throw .unknownArgument
  | some spec, none => level.meet spec
  | some spec, some text => level.meetWith spec text

/-- The value in what is attached to a letter. -/
def attached : List Char → String
  | '=' :: rest => String.ofList rest
  | cs => String.ofList cs

/-- Meet options by their letters. -/
def meetLetters (options : List OptionSpec) (level : Level) :
    List Char → Except UsageKind Level
  | [] => .ok level
  | letter :: rest =>
      match options.find? fun spec => spec.letter == some letter with
      | none => throw .unknownArgument
      | some spec =>
          match spec.action, rest with
          | .takes _, _ :: _ => level.meetWith spec (attached rest)
          | _, _ => match level.meet spec with
              | .ok level => meetLetters options level rest
              | .error e => .error e

/-- Meet an argument by position. -/
def meetArgument (level : Level) (kinds : List ArgumentKind) (text : String) :
    Option (Except UsageKind Level) :=
  (kinds[level.met]?).map fun kind => do
    let level ← level.settle
    return { level with pending := some (.argument kind text), met := level.met + 1 }

end Level

/-! ## Reading a whole line -/

/-- How an argument looks. -/
inductive Shape where
  | divider
  | long (name : String) (value : Option String)
  | letters (letters : List Char)
  | plain

/-- The look of an argument.  A single hyphen is a plain value. -/
def Shape.of (text : String) : Shape :=
  match text.toList with
  | ['-', '-'] => .divider
  | '-' :: '-' :: rest =>
      let name := rest.takeWhile fun c => c != '='
      let value := match rest.drop name.length with
        | _ :: value => some (String.ofList value)
        | [] => none
      .long (String.ofList name) value
  | '-' :: c :: rest => .letters (c :: rest)
  | _ => .plain

variable {α : Type}

/-- The command that is asked about after `help`. -/
def helpOn (tree : CommandTree α) (path : List String) : List String → Usage
  | [] => ⟨.help, path⟩
  | word :: rest =>
      match tree.member? word, rest with
      | some member, rest => helpOn member (path ++ [word]) rest
      | none, [] => ⟨if tree.isGroup && word == "help" then .help else .unknownCommand, path⟩
      | none, _ => ⟨.unknownCommand, path⟩

/-- What is wrong with an argument for which there is no place. -/
def misplaced (tree : CommandTree α) (level : Level) (text : String) : UsageKind :=
  let isCommand := (tree.member? text).isSome || text == "help"
  if !tree.isGroup then .unknownArgument
  else if level.trailing && isCommand then .unknownArgument
  else .unknownCommand

/-- Settle the levels above, from the inside out. -/
def settleAll : List Level → Except UsageKind (List Level)
  | [] => .ok []
  | level :: above => do
      let level ← level.settle
      let above ← settleAll above
      return level :: above

/-- End a line at a command. -/
def finish (tree : CommandTree α) (level : Level) : Except UsageKind (α × Level) := do
  let level ← level.settle
  match tree with
  | .group .. =>
      throw (if level.given.isEmpty then .bare else .missingCommand)
  | .leaf _ _ _ build =>
      match build level.arguments level.given with
      | some value => return (value, level)
      | none => throw .missingArgument

/-- Read the rest of a line.  `shared` are the options of all levels; `above` has the
levels above, the nearest first. -/
def readFrom (shared : List OptionSpec) (tree : CommandTree α) (path : List String)
    (above : List Level) (level : Level) : List String → Except Usage (α × List Level)
  | [] =>
      match finish tree level with
      | .error kind => .error ⟨kind, path⟩
      | .ok (value, level) => match settleAll above with
          | .error kind => .error ⟨kind, path⟩
          | .ok above => .ok (value, level :: above)
  | text :: rest =>
      let options := tree.options ++ shared
      let goOn (result : Except UsageKind Level) : Except Usage (α × List Level) :=
        match result with
        | .ok level => readFrom shared tree path above level rest
        | .error kind => .error ⟨kind, path⟩
      let place (_ : Unit) : Except Usage (α × List Level) :=
        goOn ((level.meetArgument tree.arguments text).getD
          (.error (misplaced tree level text)))
      if level.trailing then place ()
      else
        let command := if level.awaited?.isSome then none else tree.member? text
        match command with
        | some member => readFrom shared member (path ++ [text]) (level :: above) .start rest
        | none =>
            if level.awaited?.isNone && tree.isGroup && text == "help" then
              .error (helpOn tree path rest)
            else match Shape.of text with
              | .divider => goOn (.ok { level with trailing := true })
              | .long name value => goOn (level.meetLong options name value)
              | .letters letters => goOn (level.meetLetters options letters)
              | .plain => match level.awaited? with
                  | some (spec, kind) =>
                      goOn (.ok { level with pending := some (.option spec kind (some text)) })
                  | none => place ()

/-- Read a whole line. -/
def readLine (shared : List OptionSpec) (tree : CommandTree α) (line : List String) :
    Except Usage (α × List Level) :=
  readFrom shared tree [tree.name] [] .start line

/-- The value of an option that may stand at any level: the deepest counts. -/
def sharedValue (levels : List Level) (name : String) : Option Argument :=
  levels.findSome? fun level => level.given.lookup name

end Caretaker.Cli
