/-!
# How composed values are written

A record is written with the names of its fields, a variant with its arguments in parentheses, and a
list in brackets.
-/

namespace ModalLexer.Text

/-- Items with a comma and a blank between them. -/
def commaSeparated (items : List String) : String :=
  ", ".intercalate items

/-- A list in brackets. -/
def bracketed (items : List String) : String :=
  "[" ++ commaSeparated items ++ "]"

/-- A tuple in parentheses. -/
def tuple (items : List String) : String :=
  "(" ++ commaSeparated items ++ ")"

/-- A variant of a type with its arguments, or just its name if it has none. -/
def variant (name : String) (arguments : List String) : String :=
  if arguments.isEmpty then name else name ++ tuple arguments

/-- Fields in braces. -/
def braced (fields : List (String × String)) : String :=
  "\x7B" ++ commaSeparated (fields.map fun (name, value) ↦ name ++ ": " ++ value) ++ "\x7D"

/-- A record with the names and the values of its fields. -/
def record (name : String) (fields : List (String × String)) : String :=
  name ++ " \x7B " ++ commaSeparated (fields.map fun (field, value) ↦ field ++ ": " ++ value) ++
    " \x7D"

/-- A value that may be missing. -/
def optional : Option String → String
  | none => "None"
  | some value => variant "Some" [value]

/-- A truth value. -/
def truth (b : Bool) : String :=
  if b then "true" else "false"

end ModalLexer.Text
