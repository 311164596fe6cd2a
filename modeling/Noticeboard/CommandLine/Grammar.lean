/-!
# Arguments of commands

A command takes options with values and a number of places.  An option is written with two dashes,
and its value follows after an equals sign or as the next argument.  Two dashes alone make all that
follows places.
-/

namespace Noticeboard.CommandLine

/-- Why a command is not carried out. -/
inductive Stop where
  | misuse
  | help
  | version
  deriving Repr, DecidableEq

/-- How an argument looks. -/
inductive Argument where
  | rest
  | long (name : String) (value : Option String)
  | short (name : Char)
  | plain (text : String)
  deriving Repr, DecidableEq

/-- A single dash is a plain argument. -/
def Argument.ofText (text : String) : Argument :=
  match text.toList with
  | ['-', '-'] => .rest
  | '-' :: '-' :: written =>
    let name := String.ofList (written.takeWhile (· != '='))
    match written.dropWhile (· != '=') with
    | _ :: value => .long name (some (String.ofList value))
    | [] => .long name none
  | '-' :: name :: _ => .short name
  | _ => .plain text

/-- What a command takes. -/
structure Grammar where
  /-- The options and the values they may have. -/
  options : List (String × (String → Bool)) := []
  places : Nat := 0

structure Given where
  options : List (String × String) := []
  places : List String := []
  deriving Repr, DecidableEq

namespace Grammar

def takePlace (grammar : Grammar) (given : Given) (text : String) : Except Stop Given :=
  if given.places.length < grammar.places then
    .ok { given with places := given.places ++ [text] }
  else .error .misuse

/-- An option is given once at most. -/
def takeOption (grammar : Grammar) (given : Given) (name value : String) : Except Stop Given :=
  match grammar.options.lookup name with
  | some accepts =>
    if (given.options.lookup name).isNone && accepts value then
      .ok { given with options := (name, value) :: given.options }
    else .error .misuse
  | none => .error .misuse

/-- Reads arguments one after the other; the first that is wrong decides. -/
def readFrom (grammar : Grammar) (given : Given) : List String → Except Stop Given
  | [] => .ok given
  | text :: following =>
    match Argument.ofText text with
    | .rest => following.foldlM grammar.takePlace given
    | .plain text => do grammar.readFrom (← grammar.takePlace given text) following
    | .short name => .error (if name = 'h' then .help else .misuse)
    | .long name (some value) => do
      grammar.readFrom (← grammar.takeOption given name value) following
    | .long name none =>
      if name = "help" then .error .help
      else match following with
        | [] => .error .misuse
        | value :: following =>
          match Argument.ofText value with
          | .plain value => do
            grammar.readFrom (← grammar.takeOption given name value) following
          | _ => .error .misuse

def read (grammar : Grammar) (arguments : List String) : Except Stop Given :=
  grammar.readFrom {} arguments

end Grammar
end Noticeboard.CommandLine
