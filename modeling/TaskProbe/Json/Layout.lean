import TaskProbe.Json.Typed

/-!
# Names of layouts

The two layouts of JSON texts by name. In JSON a layout is the string of its name.
-/

namespace TaskProbe.Json.Layout

/-- The name of a layout. -/
def name : Layout → String
  | .pretty => "pretty"
  | .compact => "compact"

/-- The layout with a name. -/
def ofName? (s : String) : Option Layout :=
  if s = pretty.name then some .pretty else if s = compact.name then some .compact else none

/-- The names of all layouts. -/
def names : List String := [pretty.name, compact.name]

/-- Reads a layout from a JSON text. -/
def ofJson (text : List UInt8) : Except Error Layout :=
  (readAll (Typed.variant names) text).map fun s => (ofName? s).getD .pretty

/-- The JSON string of a layout. -/
def toJson (l : Layout) : Value := .string l.name

end TaskProbe.Json.Layout
