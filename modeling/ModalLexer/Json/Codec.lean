import ModalLexer.Config
import ModalLexer.Json.Reader
import ModalLexer.State
import ModalLexer.Token

/-!
# Tokens and settings in JSON

A record is an object with its fields as members, others being passed over, or an array of exactly
its fields in order. A variant is an object with its name as the only member; a variant without
arguments may also be just its name, and is written so. Floating-point numbers that are not numbers
or beyond all numbers are written as nothing, and cannot be read again.
-/

namespace ModalLexer

namespace Json

/-- The members of an object that have a given name. -/
def membersNamed (members : List (Option String × Json)) (name : String) : List Json :=
  members.filterMap fun (n, value) ↦ if n = some name then some value else none

/-- The fields of a record, in order. Each must be there exactly once, and all members must have
names. -/
def fields? (names : List String) : Json → Option (List Json)
  | .object members =>
    if members.all (·.1.isSome) then
      names.mapM fun name ↦
        match membersNamed members name with
        | [value] => some value
        | _ => none
    else none
  | .array items => if items.length = names.length then some items else none
  | _ => none

/-- The name of a variant and its argument, if there is one. -/
def variant? : Json → Option (String × Option Json)
  | .string (some name) => some (name, none)
  | .object [(some name, value)] => some (name, some value)
  | _ => none

/-- Whether the argument of a variant that takes none is missing or nothing. -/
def noArgument : Option Json → Bool
  | none | some .null => true
  | _ => false

/-- A text. -/
def text? : Json → Option String
  | .string s => s
  | _ => none

/-- A text of one character. -/
def char? : Json → Option Char
  | .string (some s) =>
    match s.toList with
    | [c] => some c
    | _ => none
  | _ => none

/-- A truth value. -/
def bool? : Json → Option Bool
  | .bool b => some b
  | _ => none

/-- A count. -/
def natural? : Json → Option Nat
  | .number n => n.natural?
  | _ => none

/-- A whole number. -/
def integer? : Json → Option Int64
  | .number n => n.integer?
  | _ => none

/-- A floating-point number. -/
def float? : Json → Option Float
  | .number n => n.float?
  | _ => none

/-- A pair of characters. -/
def charPair? : Json → Option (Char × Char)
  | .array [a, b] => do return (← a.char?, ← b.char?)
  | _ => none

/-- How floating-point numbers are written: with a point, and with a signed exponent if they are
very small or very large. -/
def floatLayout : Decimal.Layout where
  pointFrom := some (-4)
  pointTo := some 16
  keepPoint := true
  keepPlus := true
  tie := .toEven

/-- A floating-point number. -/
def floatText (x : Float) : String :=
  if x.isNaN || x.isInf then "null" else floatLayout.render x

end Json

open Json

namespace Position

/-- Reads a position. -/
def ofJson? (j : Json) : Option Position := do
  match ← j.fields? ["line", "column"] with
  | [line, column] => return ⟨.ofNat (← line.natural?), .ofNat (← column.natural?)⟩
  | _ => none

/-- Writes a position. -/
def toJson (p : Position) : String :=
  objectText [("line", toString p.line), ("column", toString p.column)]

end Position

namespace TokenValue

/-- Reads a value. -/
def ofJson? (j : Json) : Option TokenValue := do
  match ← j.variant? with
  | ("None", argument) => if noArgument argument then some TokenValue.none else Option.none
  | ("Text", some argument) => argument.text?.map TokenValue.text
  | ("Integer", some argument) => argument.integer?.map TokenValue.integer
  | ("Float", some argument) => argument.float?.map TokenValue.float
  | ("Char", some argument) => argument.char?.map TokenValue.char
  | ("Bool", some argument) => argument.bool?.map TokenValue.bool
  | _ => Option.none

/-- Writes a value. -/
def toJson : TokenValue → String
  | .none => Json.quote "None"
  | .text s => objectText [("Text", Json.quote s)]
  | .integer n => objectText [("Integer", toString n.toInt)]
  | .float x => objectText [("Float", floatText x)]
  | .char c => objectText [("Char", Json.quote (String.singleton c))]
  | .bool b => objectText [("Bool", Text.truth b)]

end TokenValue

namespace Token

/-- Reads a token. -/
def ofJson? (j : Json) : Option Token := do
  match ← j.fields? ["name", "value", "source_line"] with
  | [name, value, position] =>
    return ⟨← name.text?, ← TokenValue.ofJson? value, ← Position.ofJson? position⟩
  | _ => none

/-- Writes a token. -/
def toJson (t : Token) : String :=
  objectText [("name", Json.quote t.name), ("value", t.value.toJson),
    ("source_line", t.position.toJson)]

end Token

namespace Config

/-- Reads options. -/
def ofJson? (j : Json) : Option Config := do
  match ← j.fields? ["debug"] with
  | [debug] => return ⟨← debug.bool?⟩
  | _ => none

/-- Writes options. -/
def toJson (c : Config) : String :=
  objectText [("debug", Text.truth c.debug)]

end Config

namespace StateKind

/-- Reads a kind of state. -/
def ofJson? (j : Json) : Option StateKind := do
  let (name, argument) ← j.variant?
  if noArgument argument then (ofText name).toOption else none

/-- Writes a kind of state. -/
def toJson (k : StateKind) : String :=
  Json.quote k.display

end StateKind

namespace CharSet

/-- Reads a set of characters. -/
def ofJson? (j : Json) : Option CharSet := do
  match ← j.fields? ["ranges"] with
  | [.array ranges] => return ⟨← ranges.mapM charPair?⟩
  | _ => none

/-- Writes a set of characters. -/
def toJson (s : CharSet) : String :=
  objectText [("ranges", arrayText (s.ranges.map fun (first, last) ↦
    arrayText [Json.quote (String.singleton first), Json.quote (String.singleton last)]))]

end CharSet

end ModalLexer
