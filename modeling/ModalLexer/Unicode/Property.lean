import ModalLexer.Unicode.AgeTable
import ModalLexer.Unicode.BreakTable
import ModalLexer.Unicode.Script

/-!
# Properties and the names that ask for them

`Property` is what a pattern may ask of a character by name; `Property.spans` gives the characters
that have it. Names are compared loosely: case, blanks, underscores and hyphens do not matter, nor
does a leading "is". `named?` finds what a single name asks for, `valued?` what a name and a value
ask for together.
-/

namespace ModalLexer.Unicode

/-- Something that a pattern may ask of a character: nothing, to be among the first 128 code points,
to be assigned, to be of some general categories, to belong to a script or be used in it, to be
given a property by a list, or to have been assigned by some version of the standard. -/
inductive Property where
  | any
  | ascii
  | assigned
  | categories (cs : List GeneralCategory)
  | script (s : Script)
  | scriptExtension (s : Script)
  | listed (l : Listing)
  | assignedBy (versions : List Listing)

/-- The word characters: letters, marks, decimal numbers, connectors and joiners. -/
def wordCharacters : Spans :=
  .unionAll [Listing.alphabetic.spans, Listing.joinControl.spans,
    GeneralCategory.among [.mn, .mc, .me, .nd, .pc]]

/-- The decimal digits of every script. -/
def decimalDigits : Spans :=
  GeneralCategory.among [.nd]

/-- Blanks and line breaks of every kind. -/
def blanks : Spans :=
  Listing.whiteSpace.spans

/-- Whether a character is a word character; among the first 128 code points no table is asked. -/
def isWord (c : Char) : Bool :=
  if c.toNat < 128 then c.isAlphanum || c == '_' else wordCharacters.contains c

namespace Property

/-- The characters with a property. -/
def spans : Property → Spans
  | any => .every
  | ascii => .range '\x00' '\x7F'
  | assigned => (GeneralCategory.among [.cn]).complement
  | categories cs => GeneralCategory.among cs
  | script s => s.spans
  | scriptExtension s => s.extensionSpans
  | listed l => l.spans
  | assignedBy versions => .unionAll (versions.map (·.spans))

/-- The form in which names are compared: only the first 128 code points count, without blanks,
underscores and hyphens, in lower case, and without a leading "is". The one exception is a name that
would come down to the letter c, which stays "isc". -/
def looseName (name : List Char) : List Char :=
  let tidy (cs : List Char) : List Char :=
    (cs.filter fun c ↦ c.toNat < 128 && c != ' ' && c != '_' && c != '-').map Char.toLower
  match name with
  | a :: b :: rest =>
    if a.toLower == 'i' && b.toLower == 's' then
      if tidy rest == ['c'] then ['i', 's', 'c'] else tidy rest
    else tidy name
  | _ => tidy name

/-- Whether one of the names is a given loose name. -/
def goesBy (names : List String) (loose : List Char) : Bool :=
  names.any fun n ↦ looseName n.toList == loose

/-- The listing among several that goes by a loose name. -/
def listing? (listings : List Listing) (loose : List Char) : Option Listing :=
  listings.find? fun l ↦ goesBy l.names loose

/-- The property that a loose name of a general category asks for. -/
def ofCategory? (loose : List Char) : Option Property :=
  if loose == "any".toList then some any
  else if loose == "assigned".toList then some assigned
  else if loose == "ascii".toList then some ascii
  else
    match GeneralCategory.all.find? fun entry ↦ goesBy entry.2 loose with
    | some entry => some (categories [entry.1])
    | none =>
      (GeneralCategory.groups.find? fun entry ↦ goesBy entry.2 loose).map fun entry ↦
        categories entry.1

/-- The script that goes by a loose name. -/
def script? (loose : List Char) : Option Script :=
  (Script.all.find? fun entry ↦ goesBy entry.2 loose).map (·.1)

/-- The property of being assigned by the version that goes by a loose name, or by one before
it. -/
def ofAge? (loose : List Char) : Option Property :=
  (listing? ages loose).map fun _ ↦
    let earlier := ages.takeWhile fun l ↦ !goesBy l.names loose
    assignedBy (ages.take (earlier.length + 1))

/-- The property that a single name asks for: a listed property, else a general category, else a
script. -/
def named? (name : List Char) : Option Property :=
  let loose := looseName name
  match listing? Listing.all loose with
  | some l => some (listed l)
  | none =>
    match ofCategory? loose with
    | some p => some p
    | none => (script? loose).map script

/-- The property that a name and a value ask for together. -/
def valued? (name value : List Char) : Option Property :=
  let loose := looseName name
  let value := looseName value
  if goesBy ["gc", "General_Category"] loose then ofCategory? value
  else if goesBy ["sc", "Script"] loose then (script? value).map script
  else if goesBy ["scx", "Script_Extensions"] loose then (script? value).map scriptExtension
  else if goesBy ["Age"] loose then ofAge? value
  else if goesBy ["GCB", "Grapheme_Cluster_Break"] loose then
    (listing? graphemeBreaks value).map listed
  else if goesBy ["WB", "Word_Break"] loose then (listing? wordBreaks value).map listed
  else if goesBy ["SB", "Sentence_Break"] loose then (listing? sentenceBreaks value).map listed
  else none

end Property

end ModalLexer.Unicode
