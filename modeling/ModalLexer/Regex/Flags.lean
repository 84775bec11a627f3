import ModalLexer.Regex.CharClass
import ModalLexer.Regex.Expr

/-!
# Flags and what they make of an expression

`Ast.resolve` applies the flags of an expression as it is written and leaves one whose meaning no
longer depends on them. Flags hold from where they stand to the end of the group around them, across
its branches.
-/

namespace ModalLexer.Regex

open Unicode (Spans)

/-- The flags in force at some point of an expression; `Flag` says what they do. -/
structure Flags where
  caseInsensitive : Bool
  multiLine : Bool
  dotMatchesNewline : Bool
  swapGreed : Bool
  unicode : Bool
  crlf : Bool

namespace Flags

/-- The flags at the start of an expression. -/
def initial : Flags := ⟨false, false, false, false, true, false⟩

/-- Switches one flag. -/
def set (f : Flags) : Flag × Bool → Flags
  | (.caseInsensitive, on) => { f with caseInsensitive := on }
  | (.multiLine, on) => { f with multiLine := on }
  | (.dotMatchesNewline, on) => { f with dotMatchesNewline := on }
  | (.swapGreed, on) => { f with swapGreed := on }
  | (.unicode, on) => { f with unicode := on }
  | (.crlf, on) => { f with crlf := on }
  | (.ignoreWhitespace, _) => f

/-- Switches several flags. -/
def setAll (f : Flags) (items : List (Flag × Bool)) : Flags :=
  items.foldl set f

/-- A class with what differs from it in case, if case does not matter. -/
def foldClass (f : Flags) (cls : Spans) : Spans :=
  if f.caseInsensitive then
    if f.unicode then cls.folded else foldedAscii cls
  else cls

/-- A class or its complement. Without the flag `u` a complement could match part of a character. -/
def negateClass (f : Flags) (negated : Bool) (cls : Spans) : Except SyntaxError Spans :=
  if !negated then .ok cls
  else if f.unicode then .ok cls.complement
  else .error .invalidUtf8

end Flags

/-- The class that a short class stands for. -/
def ShortClass.resolve (f : Flags) (negated : Bool) (k : ShortClass) : Except SyntaxError Spans :=
  f.negateClass negated (k.spans f.unicode)

/-- The property that a query asks for. -/
def PropertyQuery.property? : PropertyQuery → Option Unicode.Property
  | named name => Unicode.Property.named? name
  | valued name value _ => Unicode.Property.valued? name value

/-- The characters that a query asks for, or the others: case is left out of account before the
complement is taken. -/
def PropertyQuery.resolve (f : Flags) (negated : Bool) (q : PropertyQuery) :
    Except SyntaxError Spans :=
  if !f.unicode then .error .unicodeNotAllowed
  else
    match q.property? with
    | some p => f.negateClass (negated != q.isUnequal) (f.foldClass p.spans)
    | none => .error .propertyUnknown

/-- The character that a literal inside brackets stands for. -/
def Literal.resolveInClass (f : Flags) (l : Literal) : Except SyntaxError Char :=
  if f.unicode || l.char.toNat < 128 then .ok l.char
  else if l.twoDigits then .error .invalidUtf8
  else .error .unicodeNotAllowed

namespace ClassSet

mutual

/-- The class that a set inside brackets stands for. -/
def resolve (f : Flags) : ClassSet → Except SyntaxError Spans
  | empty => .ok .empty
  | literal l => do return .single (← l.resolveInClass f)
  | range first last => do return .range (← first.resolveInClass f) (← last.resolveInClass f)
  | namedClass negated k => f.negateClass negated (f.foldClass k.spans)
  | shortClass negated k => k.resolve f negated
  | property negated q => q.resolve f negated
  | bracketed negated inner => do f.negateClass negated (f.foldClass (← resolve f inner))
  | union items => resolveAll f items
  | operation op left right => do
    let left := f.foldClass (← resolve f left)
    let right := f.foldClass (← resolve f right)
    match op with
    | .intersection => return left.inter right
    | .difference => return left.diff right
    | .symmetricDifference => return left.symmDiff right

/-- The class that several sets together stand for. -/
def resolveAll (f : Flags) : List ClassSet → Except SyntaxError Spans
  | [] => .ok .empty
  | item :: items => do return (← resolve f item).union (← resolveAll f items)

end

end ClassSet

/-- The requirement that an assertion makes. -/
def Assertion.resolve (f : Flags) : Assertion → Look
  | startLine => if f.multiLine then .startLine f.crlf else .startText
  | endLine => if f.multiLine then .endLine f.crlf else .endText
  | startText => .startText
  | endText => .endText
  | wordBoundary => .boundary f.unicode
  | notWordBoundary => .noBoundary f.unicode
  | wordStart => .wordStart f.unicode
  | wordEnd => .wordEnd f.unicode
  | wordStartHalf => .noWordBehind f.unicode
  | wordEndHalf => .noWordAhead f.unicode

/-- The class that a literal outside brackets stands for. -/
def Literal.resolve (f : Flags) (l : Literal) : Except SyntaxError Spans :=
  if !f.unicode && l.twoDigits && 128 ≤ l.char.toNat then .error .invalidUtf8
  else if !f.unicode && 128 ≤ l.char.toNat then .ok (.single l.char)
  else .ok (f.foldClass (.single l.char))

/-- The class that the dot stands for. -/
def dotClass (f : Flags) : Except SyntaxError Spans :=
  if !f.unicode then .error .invalidUtf8
  else if f.dotMatchesNewline then .ok .every
  else if f.crlf then .ok (.complement (.ofRanges [('\r', '\r'), ('\n', '\n')]))
  else .ok (.complement (.single '\n'))

namespace Ast

mutual

/-- The expression that remains once flags are applied, and the flags in force after it. -/
def resolve (f : Flags) : Ast → Except SyntaxError (Expr × Flags)
  | empty => .ok (.empty, f)
  | flags items => .ok (.empty, f.setAll items)
  | literal l => do return (.ofClass (← l.resolve f), f)
  | dot => do return (.ofClass (← dotClass f), f)
  | assertion a => .ok (.look (a.resolve f), f)
  | property negated q => do return (.ofClass (← q.resolve f negated), f)
  | shortClass negated k => do return (.ofClass (← k.resolve f negated), f)
  | bracketed negated set => do
    return (.ofClass (← f.negateClass negated (f.foldClass (← set.resolve f))), f)
  | repetition least most greedy sub => do
    let (sub, g) ← resolve f sub
    return (.repeated least most (greedy != f.swapGreed) sub, g)
  | group index items sub => do
    let (sub, _) ← resolve (f.setAll items) sub
    return (index.elim sub (.capture · sub), f)
  | alternation branches => do
    let (branches, f) ← resolveBranches f branches
    return (.oneOf branches, f)
  | concat parts => resolveParts f parts

/-- Several expressions one after another. -/
def resolveParts (f : Flags) : List Ast → Except SyntaxError (Expr × Flags)
  | [] => .ok (.empty, f)
  | part :: parts => do
    let (first, f) ← resolve f part
    let (rest, f) ← resolveParts f parts
    return (first.append rest, f)

/-- Several expressions to choose from. -/
def resolveBranches (f : Flags) : List Ast → Except SyntaxError (List Expr × Flags)
  | [] => .ok ([], f)
  | branch :: branches => do
    let (first, f) ← resolve f branch
    let (others, f) ← resolveBranches f branches
    return (first :: others, f)

end

end Ast

end ModalLexer.Regex
