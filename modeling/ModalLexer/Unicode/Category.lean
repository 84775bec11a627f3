import ModalLexer.Unicode.CategoryTable
import ModalLexer.Unicode.Runs

/-!
# General categories

Every character, and every code point that may become one, has one of twenty-nine general
categories. `GeneralCategory.among` gives the characters of some of them; `all` and `groups` list
the names that stand for one category, such as `Lu`, or for several, such as `Punctuation`.
-/

namespace ModalLexer.Unicode

/-- What kind of character a code point is, by the two-letter code of the standard. -/
inductive GeneralCategory where
  | lu
  | ll
  | lt
  | lm
  | lo
  | mn
  | mc
  | me
  | nd
  | nl
  | no
  | pc
  | pd
  | ps
  | pe
  | pi
  | pf
  | po
  | sm
  | sc
  | sk
  | so
  | zs
  | zl
  | zp
  | cc
  | cf
  | co
  | cn
  deriving DecidableEq

namespace GeneralCategory

/-- The categories with the names that each goes by; the first name is the abbreviation. -/
def all : List (GeneralCategory × List String) :=
  [(lu, ["Lu", "Uppercase_Letter"]), (ll, ["Ll", "Lowercase_Letter"]),
   (lt, ["Lt", "Titlecase_Letter"]), (lm, ["Lm", "Modifier_Letter"]), (lo, ["Lo", "Other_Letter"]),
   (mn, ["Mn", "Nonspacing_Mark"]), (mc, ["Mc", "Spacing_Mark"]), (me, ["Me", "Enclosing_Mark"]),
   (nd, ["Nd", "Decimal_Number", "digit"]), (nl, ["Nl", "Letter_Number"]),
   (no, ["No", "Other_Number"]), (pc, ["Pc", "Connector_Punctuation"]),
   (pd, ["Pd", "Dash_Punctuation"]), (ps, ["Ps", "Open_Punctuation"]),
   (pe, ["Pe", "Close_Punctuation"]), (pi, ["Pi", "Initial_Punctuation"]),
   (pf, ["Pf", "Final_Punctuation"]), (po, ["Po", "Other_Punctuation"]),
   (sm, ["Sm", "Math_Symbol"]), (sc, ["Sc", "Currency_Symbol"]), (sk, ["Sk", "Modifier_Symbol"]),
   (so, ["So", "Other_Symbol"]), (zs, ["Zs", "Space_Separator"]), (zl, ["Zl", "Line_Separator"]),
   (zp, ["Zp", "Paragraph_Separator"]), (cc, ["Cc", "Control", "cntrl"]), (cf, ["Cf", "Format"]),
   (co, ["Co", "Private_Use"]), (cn, ["Cn", "Unassigned"])]

/-- The groups of categories that have names of their own. -/
def groups : List (List GeneralCategory × List String) :=
  [([lu, ll, lt, lm, lo], ["L", "Letter"]), ([lu, ll, lt], ["LC", "Cased_Letter"]),
   ([mn, mc, me], ["M", "Mark", "Combining_Mark"]), ([nd, nl, no], ["N", "Number"]),
   ([pc, pd, ps, pe, pi, pf, po], ["P", "Punctuation", "punct"]),
   ([sm, sc, sk, so], ["S", "Symbol"]), ([zs, zl, zp], ["Z", "Separator"]),
   ([cc, cf, co, cn], ["C", "Other"])]

/-- The category with a given abbreviation. -/
def ofAbbreviation? (name : String) : Option GeneralCategory :=
  (all.find? fun entry ↦ entry.2.head? == some name).map (·.1)

/-- The general category of every character. -/
def table : Runs GeneralCategory :=
  .ofText ofAbbreviation? categoryRuns

/-- The characters of some categories. -/
def among (cs : List GeneralCategory) : Spans :=
  table.spans cs.contains

end GeneralCategory

end ModalLexer.Unicode
