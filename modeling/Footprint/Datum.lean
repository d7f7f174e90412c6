import Footprint.Decimal.Double
import Footprint.Text.Quoted

/-!
# Loose data

A value as it comes from a file or from a caller, before it is known what it should be: a size that
may turn out to be no number, an entry of a catalog file. A datum has a name for its kind and a
shown form, both of which appear in messages.
-/

namespace Footprint

/-- A value of any kind. The fields of a record keep their order. -/
inductive Datum where
  | null
  | bool (value : Bool)
  | int (value : Int)
  | float (value : Double)
  | text (value : String)
  | list (items : List Datum)
  | record (fields : List (String × Datum))
  deriving Repr, Inhabited

namespace Datum

/-- The name of the kind of a value in messages. -/
def kindName : Datum → String
  | null => "NoneType"
  | bool _ => "bool"
  | int _ => "int"
  | float _ => "float"
  | text _ => "str"
  | list _ => "list"
  | record _ => "dict"

mutual

/-- The shown form of a value, in which a text is quoted. -/
def shown : Datum → String
  | null => "None"
  | bool value => if value then "True" else "False"
  | int value => toString value
  | float value => value.text
  | text value => Text.quoted value
  | list items => "[" ++ ", ".intercalate (shownItems items) ++ "]"
  | record fields => "\x7b" ++ ", ".intercalate (shownFields fields) ++ "\x7d"

/-- The shown forms of the items of a list. -/
def shownItems : List Datum → List String
  | [] => []
  | item :: rest => shown item :: shownItems rest

/-- The shown forms of the fields of a record. -/
def shownFields : List (String × Datum) → List String
  | [] => []
  | (name, value) :: rest => (Text.quoted name ++ ": " ++ shown value) :: shownFields rest

end

/-- The form of a value inside other text: a text stands for itself. -/
def inline : Datum → String
  | text value => value
  | other => other.shown

/-- The value of a field, if the record has it. -/
def field? (name : String) (fields : List (String × Datum)) : Option Datum := fields.lookup name

end Datum

end Footprint
