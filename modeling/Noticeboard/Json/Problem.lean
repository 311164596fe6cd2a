import Noticeboard.Json.Printer
import Noticeboard.Time.Reading

/-!
# Why a data value does not fit

A `Problem` is one cause for which a data value is refused as a record, with the sentence that
reports it.
-/

namespace Noticeboard.Json

inductive Problem where
  | wrongType (found : Json) (wanted : String)
  | wrongValue (found : Json) (wanted : String)
  | bareVariant
  | unknownField (name : String) (known : List String)
  | unknownVariant (name : String) (known : List String)
  | missing (field : String)
  | tooShort (length : Nat) (shape : String) (size : Nat)
  | tooLong (length : Nat)
  | surplus (length size : Nat)
  | instant (fault : Time.Fault)

/-- What a value is called in a report. -/
def describe : Json → String
  | .null => "null"
  | .bool value => "boolean `" ++ (if value then "true" else "false") ++ "`"
  | .num (.whole n) => "integer `" ++ toString n ++ "`"
  | .num (.real x) => "floating point `" ++ Layout.data.render x ++ "`"
  | .str value => "string " ++ Text.quoted value
  | .arr _ => "sequence"
  | .obj _ => "map"

def ticked (name : String) : String :=
  "`" ++ name ++ "`"

/-- The names that were possible: one alone, two joined by "or", more as a list. -/
def choices : List String → String
  | [] => "there are no fields"
  | [one] => "expected " ++ ticked one
  | [one, two] => "expected " ++ ticked one ++ " or " ++ ticked two
  | many => "expected one of " ++ String.intercalate ", " (many.map ticked)

def elements (size : Nat) : String :=
  toString size ++ (if size = 1 then " element" else " elements")

def Problem.message : Problem → String
  | .wrongType found wanted => "invalid type: " ++ describe found ++ ", expected " ++ wanted
  | .wrongValue found wanted => "invalid value: " ++ describe found ++ ", expected " ++ wanted
  | .bareVariant => "invalid type: unit variant, expected newtype variant"
  | .unknownField name known => "unknown field " ++ ticked name ++ ", " ++ choices known
  | .unknownVariant name known => "unknown variant " ++ ticked name ++ ", " ++ choices known
  | .missing field => "missing field " ++ ticked field
  | .tooShort length shape size =>
    "invalid length " ++ toString length ++ ", expected " ++ shape ++ " with " ++ elements size
  | .tooLong length =>
    "invalid length " ++ toString length ++ ", expected fewer elements in array"
  | .surplus length size =>
    "invalid length " ++ toString length ++ ", expected " ++ elements size ++ " in sequence"
  | .instant fault => fault.message

end Noticeboard.Json
