import ModalLexer.Unicode.Property

/-!
# Regular expressions in their simplest form

An `Expr` depends on no flags. It is made by `append`, `oneOf`, `ofClass` and `repeated`, which keep
it simple: neighbouring characters make one text, parts of a sequence and branches of a choice are
no sequences and choices themselves, a choice between characters or classes is one class, and what
all branches start with stands before the choice. None of this changes what is matched, but it
decides how large an expression is.
-/

namespace ModalLexer.Regex

open Unicode (Spans)

/-- What may be required of the characters on either side of a place: that the text or a line starts
or ends here, that there is a word character on one side only or not, that a word starts or ends
here, or that there is no word character behind or ahead. -/
inductive Look where
  | startText
  | endText
  | startLine (crlf : Bool)
  | endLine (crlf : Bool)
  | boundary (unicode : Bool)
  | noBoundary (unicode : Bool)
  | wordStart (unicode : Bool)
  | wordEnd (unicode : Bool)
  | noWordBehind (unicode : Bool)
  | noWordAhead (unicode : Bool)
  deriving DecidableEq

namespace Look

/-- Whether a character counts as part of a word. -/
def isWord (unicode : Bool) (c : Char) : Bool :=
  if unicode then Unicode.isWord c else c.isAlphanum || c == '_'

/-- Whether a requirement is met between two characters, none meaning that there is none. -/
def holds (look : Look) (before after : Option Char) : Bool :=
  let word (unicode : Bool) (c : Option Char) : Bool := c.any (isWord unicode)
  match look with
  | startText => before.isNone
  | endText => after.isNone
  | startLine false => before.isNone || before == some '\n'
  | startLine true =>
    before.isNone || before == some '\n' || (before == some '\r' && after != some '\n')
  | endLine false => after.isNone || after == some '\n'
  | endLine true =>
    after.isNone || after == some '\r' || (after == some '\n' && before != some '\r')
  | boundary u => word u before != word u after
  | noBoundary u => word u before == word u after
  | wordStart u => !word u before && word u after
  | wordEnd u => word u before && !word u after
  | noWordBehind u => !word u before
  | noWordAhead u => !word u after

end Look

/-- A regular expression whose meaning depends on no flags. A sequence is a part with the rest of
it, a choice a branch with the other branches, and a repetition without `most` has no upper bound.
Groups are kept if they are counted. -/
inductive Expr where
  | empty
  | text (chars : List Char)
  | one (cls : Spans)
  | look (l : Look)
  | capture (index : Nat) (sub : Expr)
  | seq (part rest : Expr)
  | either (branch others : Expr)
  | repetition (least : Nat) (most : Option Nat) (greedy : Bool) (sub : Expr)
  deriving DecidableEq

namespace Expr

/-! ### Lengths -/

/-- The least number of characters that an expression takes; none if it never matches. -/
def minimumLength? : Expr → Option Nat
  | empty | look _ => some 0
  | text cs => some cs.length
  | one cls => if cls = .empty then none else some 1
  | capture _ sub => sub.minimumLength?
  | seq a b => do return (← a.minimumLength?) + (← b.minimumLength?)
  | either a b => do return min (← a.minimumLength?) (← b.minimumLength?)
  | repetition least _ _ sub => do return least * (← sub.minimumLength?)

/-- The greatest number of characters that an expression takes; none if it never matches, or if
there is no greatest. -/
def maximumLength? : Expr → Option Nat
  | empty | look _ => some 0
  | text cs => some cs.length
  | one cls => if cls = .empty then none else some 1
  | capture _ sub => sub.maximumLength?
  | seq a b => do return (← a.maximumLength?) + (← b.maximumLength?)
  | either a b => do return max (← a.maximumLength?) (← b.maximumLength?)
  | repetition _ most _ sub => do return (← most) * (← sub.maximumLength?)

/-- Whether an expression is known to take at least one character. -/
def consumes (e : Expr) : Bool :=
  e.minimumLength?.any (0 < ·)

/-- Whether an expression is known to take no characters. -/
def isPlace (e : Expr) : Bool :=
  e.maximumLength? == some 0

/-- Whether every match starts at the start of the text. -/
def startsText : Expr → Bool
  | empty | text _ | one _ => false
  | look l => l == .startText
  | capture _ sub => sub.startsText
  | seq a b => a.startsText || (a.isPlace && b.startsText)
  | either a b => a.startsText && b.startsText
  | repetition least _ _ sub => 0 < least && sub.startsText

/-- Whether every match ends at the end of the text. -/
def endsText : Expr → Bool
  | empty | text _ | one _ => false
  | look l => l == .endText
  | capture _ sub => sub.endsText
  | seq a b => b.endsText || (b.isPlace && a.endsText)
  | either a b => a.endsText && b.endsText
  | repetition least _ _ sub => 0 < least && sub.endsText

/-! ### Making expressions -/

/-- One character of a class, which may be a single character. -/
def ofClass (cls : Spans) : Expr :=
  match cls.bounds with
  | [a, b] => if b = Spans.after a then text [Char.ofNat a] else one cls
  | _ => one cls

/-- The parts of a sequence. -/
def parts : Expr → List Expr
  | empty => []
  | seq part rest => part :: rest.parts
  | e => [e]

/-- Puts a part before a sequence. -/
def prepend : Expr → Expr → Expr
  | text cs, text ds => text (cs ++ ds)
  | text cs, seq (text ds) rest => seq (text (cs ++ ds)) rest
  | part, empty => part
  | part, rest => seq part rest

/-- The sequence of several parts and a sequence. -/
def ofParts (parts : List Expr) (rest : Expr) : Expr :=
  parts.foldr prepend rest

/-- One expression after another. -/
def append (a b : Expr) : Expr :=
  ofParts a.parts b

/-- The branches of a choice. -/
def branches : Expr → List Expr
  | either branch others => branch :: others.branches
  | e => [e]

/-- The character that an expression consists of. -/
def char? : Expr → Option Char
  | text [c] => some c
  | _ => none

/-- The class that an expression consists of. -/
def class? : Expr → Option Spans
  | one cls => some cls
  | _ => none

/-- A choice between branches that are no choices themselves. -/
def choice : List Expr → Expr
  | [] => one .empty
  | [branch] => branch
  | branch :: others => either branch (choice others)

/-- A choice between branches: one class if all are characters or all are classes. -/
def merged (branches : List Expr) : Expr :=
  match branches with
  | [branch] => branch
  | branches =>
    match branches.mapM char? with
    | some cs => ofClass (.unionAll (cs.map .single))
    | none =>
      match branches.mapM class? with
      | some sets => ofClass (.unionAll sets)
      | none => choice branches

/-- What two lists start with in common. -/
def commonPrefix : List Expr → List Expr → List Expr
  | a :: as, b :: bs => if a = b then a :: commonPrefix as bs else []
  | _, _ => []

/-- One of several expressions, the earlier being preferred. What several sequences start with in
common is put before the choice. -/
def oneOf (es : List Expr) : Expr :=
  let flat := es.flatMap branches
  match flat.map parts with
  | first :: second :: others =>
    let shared := (second :: others).foldl commonPrefix first
    if shared.isEmpty || (first :: second :: others).any (·.length < 2) then merged flat
    else
      let rests := (first :: second :: others).map fun ps ↦ ofParts (ps.drop shared.length) empty
      ofParts shared (merged (rests.flatMap branches))
  | _ => merged flat

/-- An expression several times. What takes no characters need not be repeated more than once. -/
def repeated (least : Nat) (most : Option Nat) (greedy : Bool) (sub : Expr) : Expr :=
  let (least, most) :=
    if sub.isPlace then (min least 1, some ((most.getD 1).min 1)) else (least, most)
  if most == some 0 then empty
  else if least == 1 && most == some 1 then sub
  else repetition least most greedy sub

end Expr

end ModalLexer.Regex
