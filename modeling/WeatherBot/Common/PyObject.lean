import WeatherBot.Common.Decimal
import WeatherBot.Common.Json

/-!
# Python objects

What a caller hands over as metadata: texts, numbers and containers of them.
-/

namespace WeatherBot.Common

/-- A Python object. A key of a mapping that is not a text is `none`. -/
inductive PyObject where
  | none
  | bool (b : Bool)
  | int (n : ℤ)
  | str (s : String)
  | decimal (d : Decimal)
  | float
  | mapping (items : List (Option String × PyObject))
  | sequence (items : List PyObject)
  /-- Anything else, by the name of its type. -/
  | other (typeName : String)

namespace PyObject

/-- A mapping with texts as its keys. -/
def dict (items : List (String × PyObject)) : PyObject :=
  mapping (items.map fun item => (some item.1, item.2))

/-- `None`, or a text. -/
def optionalText : Option String → PyObject
  | Option.none => none
  | some s => str s

mutual

/-- What `json.loads` returns for a JSON text. -/
def ofJson : Json → PyObject
  | .null => none
  | .bool b => bool b
  | .int n => int n
  | .float _ => float
  | .str s => str s
  | .arr items => sequence (ofItems items)
  | .obj members => mapping (ofMembers members)

def ofItems : List Json → List PyObject
  | [] => []
  | value :: items => ofJson value :: ofItems items

/-- The items of a `dict` that `json.loads` returns. -/
def ofMembers : List (String × Json) → List (Option String × PyObject)
  | [] => []
  | (key, value) :: members => (some key, ofJson value) :: ofMembers members

end

end PyObject

end WeatherBot.Common
