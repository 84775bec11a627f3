import ModalLexer.Json

/-!
# Reading JSON

`Json.parse?` reads a whole text, blanks around it allowed, or nothing. Values within values are
read in a number of steps that the length of the text bounds.
-/

namespace ModalLexer.Json

/-- Drops blanks. -/
def skipBlanks (cs : List Char) : List Char :=
  cs.dropWhile fun c ↦ c == ' ' || c == '\t' || c == '\n' || c == '\r'

/-- Reads four digits in base sixteen. -/
def fourDigits? : List Char → Option (Nat × List Char)
  | a :: b :: c :: d :: rest => (Text.hexValue? [a, b, c, d]).map fun n ↦ (n, rest)
  | _ => none

/-- Reads the rest of a string, up to its closing quotation mark. The characters come last first;
without them the string is read but has no content. -/
def readString : Nat → Option (List Char) → List Char → Option (Option String × List Char)
  | 0, _, _ => none
  | _ + 1, _, [] => none
  | bound + 1, content, c :: cs =>
    let put (d : Char) (rest : List Char) : Option (Option String × List Char) :=
      readString bound (content.map (d :: ·)) rest
    if c == '"' then some (content.map fun ds ↦ String.ofList ds.reverse, cs)
    else if c.toNat < 32 then none
    else if c != '\\' then put c cs
    else
      match cs with
      | '"' :: rest => put '"' rest
      | '\\' :: rest => put '\\' rest
      | '/' :: rest => put '/' rest
      | 'b' :: rest => put '\x08' rest
      | 'f' :: rest => put '\x0C' rest
      | 'n' :: rest => put '\n' rest
      | 'r' :: rest => put '\r' rest
      | 't' :: rest => put '\t' rest
      | 'u' :: rest => do
        let (n, rest) ← fourDigits? rest
        if 0xD800 ≤ n ∧ n < 0xDC00 then
          let paired := match rest with
            | '\\' :: 'u' :: more => fourDigits? more
            | _ => none
          match paired with
          | some (m, more) =>
            if 0xDC00 ≤ m ∧ m < 0xE000 then
              put (Char.ofNat (0x10000 + (n - 0xD800) * 0x400 + (m - 0xDC00))) more
            else readString bound none rest
          | none => readString bound none rest
        else if 0xDC00 ≤ n ∧ n < 0xE000 then readString bound none rest
        else put (Char.ofNat n) rest
      | _ => none

/-- Takes digits off the front; there must be at least one. -/
def digits? (cs : List Char) : Option (List Char × List Char) :=
  let digits := cs.takeWhile Char.isDigit
  if digits.isEmpty then none else some (digits, cs.dropWhile Char.isDigit)

/-- Reads the part of a number after its point, if there is one. -/
def readFraction : List Char → Option (List Char × List Char)
  | '.' :: cs => digits? cs
  | cs => some ([], cs)

/-- Reads the exponent of a number, if there is one. -/
def readExponent : List Char → Option (Option Int × List Char)
  | e :: cs =>
    if e == 'e' || e == 'E' then do
      let (negative, cs) : Bool × List Char :=
        match cs with
        | '-' :: cs => (true, cs)
        | '+' :: cs => (false, cs)
        | cs => (false, cs)
      let (digits, rest) ← digits? cs
      let n : Int := digits.foldl (fun n c ↦ 10 * n + (c.toNat - '0'.toNat)) 0
      return (some (if negative then -n else n), rest)
    else some (none, e :: cs)
  | [] => some (none, [])

/-- Reads a number. Digits do not start with a zero unless it is the only one before the point. -/
def readNumber (cs : List Char) : Option (JsonNumber × List Char) := do
  let (negative, cs) : Bool × List Char :=
    match cs with
    | '-' :: cs => (true, cs)
    | cs => (false, cs)
  let (whole, rest) ← digits? cs
  if whole.head? == some '0' && whole.length != 1 then none
  else
    let (fraction, rest) ← readFraction rest
    let (exponent, rest) ← readExponent rest
    return (⟨negative, whole, fraction, exponent⟩, rest)

mutual

/-- Reads a value. -/
def readValue : Nat → List Char → Option (Json × List Char)
  | 0, _ => none
  | bound + 1, cs =>
    match skipBlanks cs with
    | 'n' :: 'u' :: 'l' :: 'l' :: rest => some (.null, rest)
    | 't' :: 'r' :: 'u' :: 'e' :: rest => some (.bool true, rest)
    | 'f' :: 'a' :: 'l' :: 's' :: 'e' :: rest => some (.bool false, rest)
    | '"' :: rest => (readString (rest.length + 1) (some []) rest).map fun (s, rest) ↦
        (.string s, rest)
    | '[' :: rest =>
      match skipBlanks rest with
      | ']' :: rest => some (.array [], rest)
      | rest => (readItems bound rest).map fun (items, rest) ↦ (.array items, rest)
    | '\x7B' :: rest =>
      match skipBlanks rest with
      | '\x7D' :: rest => some (.object [], rest)
      | rest => (readMembers bound rest).map fun (members, rest) ↦ (.object members, rest)
    | cs => (readNumber cs).map fun (n, rest) ↦ (.number n, rest)

/-- Reads the items of an array and its closing bracket. -/
def readItems : Nat → List Char → Option (List Json × List Char)
  | 0, _ => none
  | bound + 1, cs => do
    let (item, rest) ← readValue bound cs
    match skipBlanks rest with
    | ',' :: rest =>
      let (items, rest) ← readItems bound rest
      return (item :: items, rest)
    | ']' :: rest => return ([item], rest)
    | _ => none

/-- Reads the members of an object and its closing brace. -/
def readMembers : Nat → List Char → Option (List (Option String × Json) × List Char)
  | 0, _ => none
  | bound + 1, cs => do
    match skipBlanks cs with
    | '"' :: rest =>
      let (name, rest) ← readString (rest.length + 1) (some []) rest
      match skipBlanks rest with
      | ':' :: rest =>
        let (value, rest) ← readValue bound rest
        match skipBlanks rest with
        | ',' :: rest =>
          let (members, rest) ← readMembers bound rest
          return ((name, value) :: members, rest)
        | '\x7D' :: rest => return ([(name, value)], rest)
        | _ => none
      | _ => none
    | _ => none

end

/-- The value that a text writes down. -/
def parse? (text : String) : Option Json :=
  let cs := text.toList
  match readValue (2 * cs.length + 2) cs with
  | some (value, rest) => if (skipBlanks rest).isEmpty then some value else none
  | none => none

end ModalLexer.Json
