/-!
# What regular expressions are made of

`Ast` is a regular expression as it is written, before its flags are applied: `Ast.depth` measures
how deeply it is nested. `SyntaxError` lists every reason for which a text is not a regular
expression.
-/

namespace ModalLexer.Regex

/-- A switch for how the rest of a group is read: with `i` letters match in either case, with `m`
lines have a start and an end of their own, with `s` the dot matches line ends too, with `U` greedy
and lazy change places, with `u` classes and boundaries know more than the first 128 code points,
with `R` carriage returns end lines too, and with `x` blanks and comments mean nothing. -/
inductive Flag where
  | caseInsensitive
  | multiLine
  | dotMatchesNewline
  | swapGreed
  | unicode
  | crlf
  | ignoreWhitespace
  deriving DecidableEq

/-- The flag that a letter stands for. -/
def Flag.ofLetter? : Char → Option Flag
  | 'i' => some .caseInsensitive
  | 'm' => some .multiLine
  | 's' => some .dotMatchesNewline
  | 'U' => some .swapGreed
  | 'u' => some .unicode
  | 'R' => some .crlf
  | 'x' => some .ignoreWhitespace
  | _ => none

/-- A single character as it is written. If it is written as two base-sixteen digits, it may also
mean a byte. -/
structure Literal where
  char : Char
  twoDigits : Bool
  deriving DecidableEq

/-- The classes that a backslash and a letter name: `\d`, `\s` and `\w`. -/
inductive ShortClass where
  | digit
  | space
  | word
  deriving DecidableEq

/-- The classes of the first 128 code points that are named inside brackets, such as `[:alpha:]`. -/
inductive NamedClass where
  | alnum
  | alpha
  | ascii
  | blank
  | cntrl
  | digit
  | graph
  | lower
  | print
  | punct
  | space
  | upper
  | word
  | xdigit
  deriving DecidableEq

/-- The named class with a given name. -/
def NamedClass.ofName? (name : List Char) : Option NamedClass :=
  match String.ofList name with
  | "alnum" => some alnum
  | "alpha" => some alpha
  | "ascii" => some ascii
  | "blank" => some blank
  | "cntrl" => some cntrl
  | "digit" => some digit
  | "graph" => some graph
  | "lower" => some lower
  | "print" => some print
  | "punct" => some punct
  | "space" => some space
  | "upper" => some upper
  | "word" => some word
  | "xdigit" => some xdigit
  | _ => none

/-- A property asked for by `\p`: by a single name, or by a name and a value. The latter may ask for
any other value instead. -/
inductive PropertyQuery where
  | named (name : List Char)
  | valued (name value : List Char) (unequal : Bool)

/-- Whether a query asks for what does not have a value. -/
def PropertyQuery.isUnequal : PropertyQuery → Bool
  | named _ => false
  | valued _ _ unequal => unequal

/-- How two sets inside brackets are combined: `&&` gives what is in both, `--` what is in the first
only, and `~~` what is in just one of them. -/
inductive SetOperation where
  | intersection
  | difference
  | symmetricDifference
  deriving DecidableEq

/-- What may stand inside brackets. Named classes, short classes, properties and brackets within
brackets may be negated, which gives their complement. -/
inductive ClassSet where
  | empty
  | literal (l : Literal)
  | range (first last : Literal)
  | namedClass (negated : Bool) (k : NamedClass)
  | shortClass (negated : Bool) (k : ShortClass)
  | property (negated : Bool) (q : PropertyQuery)
  | bracketed (negated : Bool) (inner : ClassSet)
  | union (items : List ClassSet)
  | operation (op : SetOperation) (left right : ClassSet)

/-- What may be required of a place without taking a character: `^`, `$`, `\A`, `\z`, `\b`, `\B`,
`\<`, `\>`, and that there is no word character behind or ahead. -/
inductive Assertion where
  | startLine
  | endLine
  | startText
  | endText
  | wordBoundary
  | notWordBoundary
  | wordStart
  | wordEnd
  | wordStartHalf
  | wordEndHalf
  deriving DecidableEq

/-- A regular expression as it is written. Flags that stand alone are for the rest of the group; a
group has flags of its own or is counted; a repetition without `most` has no upper bound. -/
inductive Ast where
  | empty
  | flags (items : List (Flag × Bool))
  | literal (l : Literal)
  | dot
  | assertion (a : Assertion)
  | property (negated : Bool) (q : PropertyQuery)
  | shortClass (negated : Bool) (k : ShortClass)
  | bracketed (negated : Bool) (set : ClassSet)
  | repetition (least : Nat) (most : Option Nat) (greedy : Bool) (sub : Ast)
  | group (index : Option Nat) (items : List (Flag × Bool)) (sub : Ast)
  | alternation (branches : List Ast)
  | concat (parts : List Ast)

namespace ClassSet

/-- The set that holds what several sets hold. -/
def ofItems : List ClassSet → ClassSet
  | [] => empty
  | [item] => item
  | items => union items

mutual

/-- How deeply a set is nested: brackets, unions and operations count one each. -/
def depth : ClassSet → Nat
  | bracketed _ inner => depth inner + 1
  | union items => depthOfAll items + 1
  | operation _ left right => max (depth left) (depth right) + 1
  | empty | literal _ | range _ _ | namedClass _ _ | shortClass _ _ | property _ _ => 0

/-- The greatest depth among several sets. -/
def depthOfAll : List ClassSet → Nat
  | [] => 0
  | item :: items => max (depth item) (depthOfAll items)

end

end ClassSet

namespace Ast

/-- The expression that consists of several parts. -/
def ofParts : List Ast → Ast
  | [] => empty
  | [part] => part
  | parts => concat parts

mutual

/-- How deeply an expression is nested: brackets, repetitions, groups, alternations and sequences
count one each. -/
def depth : Ast → Nat
  | bracketed _ set => set.depth + 1
  | repetition _ _ _ sub => depth sub + 1
  | group _ _ sub => depth sub + 1
  | alternation branches => depthOfAll branches + 1
  | concat parts => depthOfAll parts + 1
  | empty | flags _ | literal _ | dot | assertion _ | property _ _ | shortClass _ _ => 0

/-- The greatest depth among several expressions. -/
def depthOfAll : List Ast → Nat
  | [] => 0
  | part :: parts => max (depth part) (depthOfAll parts)

end

end Ast

/-- Why a text is not a regular expression; `SyntaxError.message` says it in words. -/
inductive SyntaxError where
  | groupUnclosed
  | groupUnopened
  | lookAround
  | groupNameEmpty
  | groupNameInvalid
  | groupNameUnclosed
  | groupNameDuplicate
  | flagUnrecognized
  | flagDuplicate
  | flagRepeatedNegation
  | flagDanglingNegation
  | flagUnclosed
  | repetitionMissing
  | repetitionUnclosed
  | repetitionCountEmpty
  | decimalInvalid
  | repetitionCountInvalid
  | escapeUnclosed
  | escapeUnrecognized
  | backreference
  | hexEmpty
  | hexInvalidDigit
  | hexInvalid
  | wordBoundaryUnclosed
  | wordBoundaryUnrecognized
  | classUnclosed
  | classRangeInvalid
  | classRangeEnd
  | classEscapeInvalid
  | propertyInvalid
  | propertyUnknown
  | nestedTooDeeply
  | unicodeNotAllowed
  | invalidUtf8
  | tooLarge
  deriving DecidableEq

/-- A sentence for each reason. -/
def SyntaxError.message : SyntaxError → String
  | groupUnclosed => "unclosed group"
  | groupUnopened => "unopened group"
  | lookAround => "looking ahead or behind is not supported"
  | groupNameEmpty => "empty group name"
  | groupNameInvalid => "invalid character in group name"
  | groupNameUnclosed => "unclosed group name"
  | groupNameDuplicate => "duplicate group name"
  | flagUnrecognized => "unrecognized flag"
  | flagDuplicate => "duplicate flag"
  | flagRepeatedNegation => "flag negation operator repeated"
  | flagDanglingNegation => "dangling flag negation operator"
  | flagUnclosed => "expected flag but got end of text"
  | repetitionMissing => "repetition operator missing expression"
  | repetitionUnclosed => "unclosed counted repetition"
  | repetitionCountEmpty => "repetition without a count"
  | decimalInvalid => "number too great"
  | repetitionCountInvalid => "repetition with its bounds the wrong way round"
  | escapeUnclosed => "incomplete escape sequence"
  | escapeUnrecognized => "unrecognized escape sequence"
  | backreference => "backreferences are not supported"
  | hexEmpty => "escape without digits"
  | hexInvalidDigit => "invalid digit in base sixteen"
  | hexInvalid => "number that is not a character"
  | wordBoundaryUnclosed => "unclosed word boundary"
  | wordBoundaryUnrecognized => "unrecognized word boundary"
  | classUnclosed => "unclosed character class"
  | classRangeInvalid => "character class range with its ends the wrong way round"
  | classRangeEnd => "character class range without a character at each end"
  | classEscapeInvalid => "escape not allowed in a character class"
  | propertyInvalid => "invalid property name"
  | propertyUnknown => "unknown property"
  | nestedTooDeeply => "nested too deeply"
  | unicodeNotAllowed => "characters beyond the first 128 are not allowed here"
  | invalidUtf8 => "pattern can match part of a character"
  | tooLarge => "pattern too large"

end ModalLexer.Regex
