import ModalLexer.Regex.Syntax
import ModalLexer.Text.Hex
import ModalLexer.Unicode.Character

/-!
# Reading regular expressions

`parse` reads a text from left to right with a stack of the groups that are still open, and
`parseBrackets` does the same for classes in brackets. Where blanks mean nothing (flag `x`), they
and comments are skipped between any two characters that belong together. Every step takes at least
one character, so the length of the text bounds the number of steps.
-/

namespace ModalLexer.Regex

/-- The deepest nesting that is accepted. -/
def depthLimit : Nat := 250

/-- Drops blanks and comments; the flag says whether the text starts inside a comment. -/
def dropBlanks : Bool → List Char → List Char
  | _, [] => []
  | true, c :: cs => dropBlanks (c != '\n') cs
  | false, c :: cs =>
    if Unicode.isBlank c then dropBlanks false cs
    else if c == '#' then dropBlanks true cs
    else c :: cs

/-- Drops blanks and comments where they mean nothing. -/
def skip (extended : Bool) (cs : List Char) : List Char :=
  if extended then dropBlanks false cs else cs

/-- Takes characters as long as they pass a test; where blanks mean nothing, those between them are
dropped, with comments. The second flag says whether the text starts inside a comment. -/
def takeSkipping (extended : Bool) (p : Char → Bool) :
    Bool → List Char → List Char × List Char
  | _, [] => ([], [])
  | true, c :: cs => takeSkipping extended p (c != '\n') cs
  | false, c :: cs =>
    if extended && Unicode.isBlank c then takeSkipping extended p false cs
    else if extended && c == '#' then takeSkipping extended p true cs
    else if p c then
      let (front, back) := takeSkipping extended p false cs
      (c :: front, back)
    else ([], c :: cs)

/-- The character with a number, surrogates and numbers out of range having none. -/
def charOfNat? (n : Nat) : Option Char :=
  if h : n.isValidChar then some (Char.ofNatAux n h) else none

/-- The character that base-sixteen digits denote. -/
def charOfHex (twoDigits : Bool) (digits : List Char) : Except SyntaxError Literal :=
  match Text.hexValue? digits with
  | none => .error .hexInvalidDigit
  | some n =>
    match charOfNat? n with
    | none => .error .hexInvalid
    | some c => .ok ⟨c, twoDigits⟩

/-- Reads a fixed number of base-sixteen digits. -/
def fixedDigits (extended : Bool) :
    Nat → List Char → Except SyntaxError (List Char × List Char)
  | 0, cs => .ok ([], cs)
  | _ + 1, [] => .error .escapeUnclosed
  | n + 1, c :: cs =>
    if (Text.hexDigit? c).isNone then .error .hexInvalidDigit
    else do
      let (digits, rest) ← fixedDigits extended n (skip extended cs)
      return (c :: digits, rest)

/-- Reads a character by number, what comes after the letter: digits in braces, or a fixed number
of them. -/
def hexEscape (extended : Bool) (count : Nat) (cs : List Char) :
    Except SyntaxError (Literal × List Char) :=
  match skip extended cs with
  | [] => .error .escapeUnclosed
  | '{' :: cs =>
    match takeSkipping extended (· != '}') false cs with
    | (_, []) => .error .escapeUnclosed
    | ([], _) => .error .hexEmpty
    | (digits, _ :: rest) => do return (← charOfHex false digits, rest)
  | cs => do
    let (digits, rest) ← fixedDigits extended count cs
    return (← charOfHex (count == 2) digits, rest)

/-- The query that the text between the braces of a property makes: a name, or a name and a value
with `!=`, a colon or an equals sign between them. -/
def PropertyQuery.ofText (text : List Char) : PropertyQuery :=
  let rec unequal : List Char → List Char → Option (List Char × List Char)
    | front, '!' :: '=' :: rest => some (front.reverse, rest)
    | front, c :: rest => unequal (c :: front) rest
    | _, [] => none
  let at? (mark : Char) : Option (List Char × List Char) :=
    match text.dropWhile (· != mark) with
    | [] => none
    | _ :: rest => some (text.takeWhile (· != mark), rest)
  match unequal [] text with
  | some (name, value) => .valued name value true
  | none =>
    match at? ':' <|> at? '=' with
    | some (name, value) => .valued name value false
    | none => .named text

/-- Reads a property, what comes after the letter: a name in braces or a single letter. -/
def propertyEscape (extended : Bool) (cs : List Char) :
    Except SyntaxError (PropertyQuery × List Char) :=
  match skip extended cs with
  | [] => .error .escapeUnclosed
  | '{' :: cs =>
    match takeSkipping extended (· != '}') false cs with
    | (_, []) => .error .escapeUnclosed
    | (text, _ :: rest) => .ok (.ofText text, rest)
  | '\\' :: _ => .error .propertyInvalid
  | c :: rest => .ok (.named [c], rest)

/-- Whether a character may be part of the name of a kind of word boundary. -/
def isBoundaryNameChar (c : Char) : Bool :=
  c.isAlpha || c == '-'

/-- Reads what kind of word boundary follows in braces. Braces that start otherwise are left alone:
they count a repetition. -/
def boundaryKind (extended : Bool) (cs : List Char) : Except SyntaxError (Assertion × List Char) :=
  match cs with
  | '{' :: inner =>
    match skip extended inner with
    | [] => .error .wordBoundaryUnclosed
    | c :: _ =>
      if isBoundaryNameChar c then
        match takeSkipping extended isBoundaryNameChar false inner with
        | (name, '}' :: rest) =>
          match String.ofList name with
          | "start" => .ok (.wordStart, rest)
          | "end" => .ok (.wordEnd, rest)
          | "start-half" => .ok (.wordStartHalf, rest)
          | "end-half" => .ok (.wordEndHalf, rest)
          | _ => .error .wordBoundaryUnrecognized
        | _ => .error .wordBoundaryUnclosed
      else .ok (.wordBoundary, cs)
  | _ => .ok (.wordBoundary, cs)

/-- Whether a backslash before a character makes it stand for itself: the punctuation and controls
among the first 128 code points, angle brackets apart. -/
def isEscapable (c : Char) : Bool :=
  c.toNat < 128 && !c.isAlphanum && c != '<' && c != '>'

/-- Reads an escape, what comes after the backslash. -/
def escape (extended : Bool) (cs : List Char) : Except SyntaxError (Ast × List Char) :=
  let plain (c : Char) (rest : List Char) : Except SyntaxError (Ast × List Char) :=
    .ok (.literal ⟨c, false⟩, rest)
  let hex (count : Nat) (rest : List Char) : Except SyntaxError (Ast × List Char) := do
    let (l, rest) ← hexEscape extended count rest
    return (.literal l, rest)
  let property (negated : Bool) (rest : List Char) : Except SyntaxError (Ast × List Char) := do
    let (q, rest) ← propertyEscape extended rest
    return (.property negated q, rest)
  match cs with
  | [] => .error .escapeUnclosed
  | 'x' :: rest => hex 2 rest
  | 'u' :: rest => hex 4 rest
  | 'U' :: rest => hex 8 rest
  | 'p' :: rest => property false rest
  | 'P' :: rest => property true rest
  | 'd' :: rest => .ok (.shortClass false .digit, rest)
  | 'D' :: rest => .ok (.shortClass true .digit, rest)
  | 's' :: rest => .ok (.shortClass false .space, rest)
  | 'S' :: rest => .ok (.shortClass true .space, rest)
  | 'w' :: rest => .ok (.shortClass false .word, rest)
  | 'W' :: rest => .ok (.shortClass true .word, rest)
  | 'a' :: rest => plain '\x07' rest
  | 'f' :: rest => plain '\x0C' rest
  | 't' :: rest => plain '\t' rest
  | 'r' :: rest => plain '\r' rest
  | 'n' :: rest => plain '\n' rest
  | 'v' :: rest => plain '\x0B' rest
  | 'A' :: rest => .ok (.assertion .startText, rest)
  | 'z' :: rest => .ok (.assertion .endText, rest)
  | 'B' :: rest => .ok (.assertion .notWordBoundary, rest)
  | '<' :: rest => .ok (.assertion .wordStart, rest)
  | '>' :: rest => .ok (.assertion .wordEnd, rest)
  | 'b' :: rest => do
    let (a, rest) ← boundaryKind extended rest
    return (.assertion a, rest)
  | c :: rest =>
    if c.isDigit then .error .backreference
    else if isEscapable c then plain c rest
    else .error .escapeUnrecognized

/-! ### Classes in brackets -/

/-- What is still open inside brackets: a bracket with the items read before it, the last first, or
the left side of an operation. -/
inductive ClassFrame where
  | opened (items : List ClassSet) (negated : Bool)
  | operation (op : SetOperation) (left : ClassSet)

/-- Ends a pending operation with its right side. -/
def closeOperation (stack : List ClassFrame) (right : ClassSet) : ClassSet × List ClassFrame :=
  match stack with
  | .operation op left :: stack => (.operation op left right, stack)
  | stack => (right, stack)

/-- Reads the start of a bracket, what comes after it: a caret, then hyphens, or a closing bracket
that stands for itself. The items come last first. -/
def openBracket (extended : Bool) (cs : List Char) :
    Except SyntaxError ((Bool × List ClassSet) × List Char) :=
  let body (negated : Bool) (cs : List Char) :
      Except SyntaxError ((Bool × List ClassSet) × List Char) :=
    let (hyphens, rest) := takeSkipping extended (· == '-') false cs
    let items := hyphens.map fun c ↦ .literal ⟨c, false⟩
    match items, rest with
    | [], ']' :: rest => .ok ((negated, [.literal ⟨']', false⟩]), rest)
    | items, rest => .ok ((negated, items), rest)
  match skip extended cs with
  | '^' :: cs => body true (skip extended cs)
  | cs => body false cs

/-- Reads a named class, what comes after the opening bracket; none if it is not one. -/
def namedClass? : List Char → Option (ClassSet × List Char)
  | ':' :: cs =>
    let (negated, cs) : Bool × List Char :=
      match cs with
      | '^' :: cs => (true, cs)
      | cs => (false, cs)
    match cs.dropWhile (· != ':') with
    | ':' :: ']' :: rest =>
      (NamedClass.ofName? (cs.takeWhile (· != ':'))).map fun k ↦ (.namedClass negated k, rest)
    | _ => none
  | _ => none

/-- Reads one item inside brackets: an escape or a character. -/
def classItem (extended : Bool) : List Char → Except SyntaxError (Ast × List Char)
  | '\\' :: cs => escape extended cs
  | c :: cs => .ok (.literal ⟨c, false⟩, cs)
  | [] => .error .classUnclosed

/-- The set that an item by itself stands for. -/
def ClassSet.ofItem : Ast → Except SyntaxError ClassSet
  | .literal l => .ok (.literal l)
  | .shortClass negated k => .ok (.shortClass negated k)
  | .property negated q => .ok (.property negated q)
  | _ => .error .classEscapeInvalid

/-- The character that an item at the end of a range stands for. -/
def Literal.ofItem : Ast → Except SyntaxError Literal
  | .literal l => .ok l
  | _ => .error .classRangeEnd

/-- The character that decides, after an item and a hyphen, whether the hyphen makes a range. Where
blanks mean nothing they are passed over, and so is the first mark of a comment, but not the
comment. -/
def peekPastHyphen (extended : Bool) (cs : List Char) : Option Char :=
  if extended then
    let rec look : Bool → List Char → Option Char
      | _, [] => none
      | marked, c :: cs =>
        if Unicode.isBlank c then look marked cs
        else if !marked && c == '#' then look true cs
        else some c
    look false cs <|> cs.head?
  else cs.head?

/-- Reads an item inside brackets and, if a hyphen makes it a range, its other end. -/
def classRange (extended : Bool) (cs : List Char) : Except SyntaxError (ClassSet × List Char) := do
  let (first, rest) ← classItem extended cs
  match skip extended rest with
  | [] => .error .classUnclosed
  | '-' :: more =>
    if peekPastHyphen extended more == some ']' || peekPastHyphen extended more == some '-' then
      return (← ClassSet.ofItem first, '-' :: more)
    else
      match skip extended more with
      | [] => .error .classUnclosed
      | more =>
        let (last, rest) ← classItem extended more
        let first ← Literal.ofItem first
        let last ← Literal.ofItem last
        if first.char ≤ last.char then return (.range first last, rest)
        else .error .classRangeInvalid
  | rest => return (← ClassSet.ofItem first, rest)

/-- Where the reading of brackets stands: what is open, the innermost first, and the items read
since, the last first. -/
structure ClassState where
  stack : List ClassFrame
  items : List ClassSet

/-- Puts an operation between what was read and what comes. -/
def ClassState.operate (s : ClassState) (op : SetOperation) : ClassState :=
  let (left, stack) := closeOperation s.stack (.ofItems s.items.reverse)
  ⟨.operation op left :: stack, []⟩

/-- Closes a bracket: the reading goes on inside the one around it, or yields the whole class. -/
def ClassState.close (s : ClassState) : ClassState ⊕ (Bool × ClassSet) :=
  match closeOperation s.stack (.ofItems s.items.reverse) with
  | (set, [.opened _ negated]) => .inr (negated, set)
  | (set, .opened items negated :: stack) => .inl ⟨stack, .bracketed negated set :: items⟩
  | (set, stack) => .inl ⟨stack, [set]⟩

/-- Reads what comes next inside brackets. -/
def ClassState.step (extended : Bool) (s : ClassState) (cs : List Char) :
    Except SyntaxError ((ClassState ⊕ (Bool × ClassSet)) × List Char) :=
  match cs with
  | [] => .error .classUnclosed
  | '[' :: rest =>
    match namedClass? rest with
    | some (set, rest) => .ok (.inl ⟨s.stack, set :: s.items⟩, rest)
    | none => do
      let ((negated, items), rest) ← openBracket extended rest
      return (.inl ⟨.opened s.items negated :: s.stack, items⟩, rest)
  | ']' :: rest => .ok (s.close, rest)
  | '&' :: '&' :: rest => .ok (.inl (s.operate .intersection), rest)
  | '-' :: '-' :: rest => .ok (.inl (s.operate .difference), rest)
  | '~' :: '~' :: rest => .ok (.inl (s.operate .symmetricDifference), rest)
  | cs => do
    let (set, rest) ← classRange extended cs
    return (.inl ⟨s.stack, set :: s.items⟩, rest)

/-- Reads the rest of a class in brackets in a bounded number of steps. -/
def readClass (extended : Bool) :
    Nat → ClassState → List Char → Except SyntaxError ((Bool × ClassSet) × List Char)
  | 0, _, _ => .error .classUnclosed
  | bound + 1, s, cs => do
    match ← s.step extended (skip extended cs) with
    | (.inr result, rest) => return (result, rest)
    | (.inl s, rest) => readClass extended bound s rest

/-- Reads a class in brackets, what comes after the opening bracket. -/
def parseBrackets (extended : Bool) (cs : List Char) : Except SyntaxError (Ast × List Char) := do
  let ((negated, items), rest) ← openBracket extended cs
  let ((negated, set), rest) ← readClass extended (rest.length + 1)
    ⟨[.opened [] negated], items⟩ rest
  return (.bracketed negated set, rest)

/-! ### Groups and repetitions -/

/-- Reads flags up to a colon or a closing parenthesis, which is returned with them. -/
def readFlags : List (Flag × Bool) → Bool → Bool → List Char →
    Except SyntaxError ((List (Flag × Bool) × Char) × List Char)
  | _, _, _, [] => .error .flagUnclosed
  | items, negated, dangling, c :: cs =>
    if c == ':' || c == ')' then
      if dangling then .error .flagDanglingNegation else .ok ((items.reverse, c), cs)
    else if c == '-' then
      if negated then .error .flagRepeatedNegation else readFlags items true true cs
    else
      match Flag.ofLetter? c with
      | none => .error .flagUnrecognized
      | some f =>
        if items.any (·.1 == f) then .error .flagDuplicate
        else readFlags ((f, !negated) :: items) negated false cs

/-- The setting of a flag among flag items, if it is set there. -/
def flagSetting? (items : List (Flag × Bool)) (f : Flag) : Option Bool :=
  (items.find? (·.1 == f)).map (·.2)

/-- Whether a character may stand in a group's name. -/
def isNameChar (first : Bool) (c : Char) : Bool :=
  c == '_' || Unicode.isAlphabetic c ||
    (!first && (c == '.' || c == '[' || c == ']' || Unicode.isAlphanumeric c))

/-- Reads a group's name, what comes after the opening angle bracket. -/
def groupName (taken : List (List Char)) (cs : List Char) :
    Except SyntaxError (List Char × List Char) :=
  let name := cs.takeWhile (· != '>')
  match name, cs.dropWhile (· != '>') with
  | _, [] => .error .groupNameUnclosed
  | [], _ => .error .groupNameEmpty
  | c :: more, _ :: rest =>
    if !(isNameChar true c && more.all (isNameChar false)) then .error .groupNameInvalid
    else if taken.contains (c :: more) then .error .groupNameDuplicate
    else .ok (c :: more, rest)

/-- What is still open outside brackets: the earlier branches of an alternation, the last first, or
a group. Of a group it holds what was read before it, the last first, its number if it is counted,
its flags, and whether blanks meant nothing before it. -/
inductive Frame where
  | group (parts : List Ast) (index : Option Nat) (items : List (Flag × Bool)) (extended : Bool)
  | alternation (branches : List Ast)

/-- Where the reading of an expression stands: what is open, the innermost first, the parts read
since, the last first, whether blanks and comments mean nothing, the names of the groups so far, and
how many of the groups are counted. -/
structure State where
  stack : List Frame
  parts : List Ast
  extended : Bool
  names : List (List Char)
  captures : Nat

namespace State

/-- The start of an expression. -/
def initial : State := ⟨[], [], false, [], 0⟩

/-- Adds a part. -/
def add (s : State) (part : Ast) : State :=
  { s with parts := part :: s.parts }

/-- What was read since something was opened. -/
def sequence (s : State) : Ast := .ofParts s.parts.reverse

/-- Starts a group with flags of its own. -/
def openGroup (s : State) (items : List (Flag × Bool)) : State :=
  { s with
    stack := .group s.parts none items s.extended :: s.stack
    parts := []
    extended := (flagSetting? items .ignoreWhitespace).getD s.extended }

/-- Starts a group that is counted. -/
def openCapture (s : State) (names : List (List Char)) : State :=
  { s with
    stack := .group s.parts (some s.captures) [] s.extended :: s.stack
    parts := []
    names := names
    captures := s.captures + 1 }

/-- Starts the next branch. -/
def nextBranch (s : State) : State :=
  match s.stack with
  | .alternation branches :: stack =>
    { s with stack := .alternation (s.sequence :: branches) :: stack, parts := [] }
  | stack => { s with stack := .alternation [s.sequence] :: stack, parts := [] }

/-- The end of the branches that are open, if any: what they make up, and the stack below. -/
def closeBranches (s : State) : Ast × List Frame :=
  match s.stack with
  | .alternation branches :: stack => (.alternation (s.sequence :: branches).reverse, stack)
  | stack => (s.sequence, stack)

/-- Ends a group. -/
def closeGroup (s : State) : Except SyntaxError State :=
  match s.closeBranches with
  | (sub, .group parts index items extended :: stack) =>
    .ok { s with stack := stack, parts := .group index items sub :: parts, extended := extended }
  | _ => .error .groupUnopened

/-- Ends the expression. -/
def finish (s : State) : Except SyntaxError Ast :=
  match s.closeBranches with
  | (ast, []) => .ok ast
  | _ => .error .groupUnclosed

/-- Takes back the last part in order to repeat it. -/
def repeated (s : State) (least : Nat) (most : Option Nat) (greedy : Bool) :
    Except SyntaxError State :=
  match s.parts with
  | [] | .empty :: _ | .flags _ :: _ => .error .repetitionMissing
  | sub :: parts =>
    .ok { s with parts := .repetition least most greedy sub :: parts }

end State

/-- Reads an opening parenthesis, what comes after it. -/
def groupStart (s : State) (cs : List Char) : Except SyntaxError (State × List Char) :=
  match skip s.extended cs with
  | '?' :: '=' :: _ | '?' :: '!' :: _ | '?' :: '<' :: '=' :: _ | '?' :: '<' :: '!' :: _ =>
    .error .lookAround
  | '?' :: 'P' :: '<' :: rest | '?' :: '<' :: rest => do
    let (name, rest) ← groupName s.names rest
    return (s.openCapture (name :: s.names), rest)
  | ['?'] => .error .groupUnclosed
  | '?' :: rest => do
    match ← readFlags [] false false rest with
    | ((items, ':'), rest) => return (s.openGroup items, rest)
    | (([], _), _) => .error .repetitionMissing
    | ((items, _), rest) =>
      let extended := (flagSetting? items .ignoreWhitespace).getD s.extended
      return ({ s with parts := .flags items :: s.parts, extended := extended }, rest)
  | rest => .ok (s.openCapture s.names, rest)

/-- Reads a number between blanks; none if there are no digits. -/
def decimal (extended : Bool) (cs : List Char) : Except SyntaxError ((Option Nat) × List Char) :=
  let (digits, rest) := takeSkipping extended Char.isDigit false (cs.dropWhile Unicode.isBlank)
  let rest := skip extended (rest.dropWhile Unicode.isBlank)
  match digits with
  | [] => .ok (none, rest)
  | digits =>
    let n := digits.foldl (fun n c ↦ 10 * n + (c.toNat - '0'.toNat)) 0
    if n < 0x100000000 then .ok (some n, rest) else .error .decimalInvalid

/-- Reads the bounds of a counted repetition, what comes after the opening brace. -/
def repetitionBounds (extended : Bool) (cs : List Char) :
    Except SyntaxError ((Nat × Option Nat) × List Char) :=
  match skip extended cs with
  | [] => .error .repetitionUnclosed
  | cs => do
    match ← decimal extended cs with
    | (_, []) => .error .repetitionUnclosed
    | (least, ',' :: rest) =>
      match skip extended rest with
      | [] => .error .repetitionUnclosed
      | rest =>
        match least, rest with
        | none, _ => .error .repetitionCountEmpty
        | some least, '}' :: rest => return ((least, none), rest)
        | some least, rest =>
          match ← decimal extended rest with
          | (none, _) => .error .repetitionCountEmpty
          | (some most, '}' :: rest) =>
            if least ≤ most then return ((least, some most), rest)
            else .error .repetitionCountInvalid
          | _ => .error .repetitionUnclosed
    | (none, _) => .error .repetitionCountEmpty
    | (some n, '}' :: rest) => return ((n, some n), rest)
    | _ => .error .repetitionUnclosed

/-- Whether a repetition is greedy, and the text after the mark that says it is not. -/
def greed (cs : List Char) : Bool × List Char :=
  match cs with
  | '?' :: rest => (false, rest)
  | cs => (true, cs)

/-- Reads what comes next in an expression. -/
def State.step (s : State) (cs : List Char) : Except SyntaxError (State × List Char) :=
  let repetition (least : Nat) (most : Option Nat) (rest : List Char) :
      Except SyntaxError (State × List Char) := do
    let (greedy, rest) := greed rest
    return (← s.repeated least most greedy, rest)
  match cs with
  | [] => .ok (s, [])
  | '(' :: rest => groupStart s rest
  | ')' :: rest => do return (← s.closeGroup, rest)
  | '|' :: rest => .ok (s.nextBranch, rest)
  | '[' :: rest => do
    let (part, rest) ← parseBrackets s.extended rest
    return (s.add part, rest)
  | '?' :: rest => repetition 0 (some 1) rest
  | '*' :: rest => repetition 0 none rest
  | '+' :: rest => repetition 1 none rest
  | '{' :: rest => do
    let _ ← s.repeated 0 none true
    let ((least, most), rest) ← repetitionBounds s.extended rest
    repetition least most (skip s.extended rest)
  | '\\' :: rest => do
    let (part, rest) ← escape s.extended rest
    return (s.add part, rest)
  | '.' :: rest => .ok (s.add .dot, rest)
  | '^' :: rest => .ok (s.add (.assertion .startLine), rest)
  | '$' :: rest => .ok (s.add (.assertion .endLine), rest)
  | c :: rest => .ok (s.add (.literal ⟨c, false⟩), rest)

/-- Reads the rest of an expression in a bounded number of steps. -/
def readAll : Nat → State → List Char → Except SyntaxError Ast
  | 0, s, _ => s.finish
  | bound + 1, s, cs =>
    match skip s.extended cs with
    | [] => s.finish
    | cs => do
      let (s, rest) ← s.step cs
      readAll bound s rest

/-- The regular expression that a text writes down. -/
def parse (text : List Char) : Except SyntaxError Ast := do
  let ast ← readAll (text.length + 1) .initial text
  if ast.depth ≤ depthLimit then return ast else .error .nestedTooDeeply

end ModalLexer.Regex
