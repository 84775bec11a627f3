import ModalLexer.Event

/-!
# Declarations, and how they are compiled

A lexer is declared by a list of declarations. The last list of token names and all states apply
from the start, wherever they stand; rules, characters to ignore and error entries are applied in
order. An inclusive state takes every lexeme of the initial state that it lacks, at once and after
every later rule; it takes the initial state's characters to ignore and error entry when it has none
of its own. `build` compiles declarations, or gives the first error found.
-/

namespace ModalLexer

/-- One declaration of a lexer. A list of token names takes the place of those declared before, and
of the kinds given to a state the last one counts. What is ignored and what is done about
unrecognized characters is declared for the initial state if no states are named. -/
inductive Declaration where
  | tokens (names : List String)
  | states (states : List (String × StateKind))
  | rule (name : String) (pattern : Pattern) (action : Option Action)
  | ignore (states : Option String) (chars : IgnoreSet)
  | error (states : Option String) (handler : Option Action)

/-- Rules while they are being compiled. The states stand with the initial one first, and the keys
are the rules declared so far, each in one state. -/
structure Draft where
  tokens : List String
  states : List (String × StateKind)
  tables : Table State
  ignores : Table IgnoreSet
  errors : Table (Option Action)
  keys : List (String × String)

/-- The token names that declarations give: the last list of them. -/
def declaredTokens (ds : List Declaration) : List String :=
  ds.foldl (fun names d ↦ match d with | .tokens names => names | _ => names) []

/-- Declares a state: its kind takes the place of an earlier one. -/
def declareState (states : List (String × StateKind)) (s : String × StateKind) :
    List (String × StateKind) :=
  Table.insertIn s.1 s.2 states

/-- The states that declarations give, after the initial one. -/
def declaredStates (ds : List Declaration) : List (String × StateKind) :=
  (ds.flatMap fun d ↦ match d with | .states states => states | _ => []).foldl declareState
    [(initialState, .inclusive)]

/-- The first thing wrong with a list of token names, given the names that came before. -/
def tokensError? : List String → List String → Option DefinitionError
  | _, [] => none
  | earlier, name :: names =>
    if !isTokenName name then some (.badTokenName name)
    else if earlier.contains name then some (.duplicateToken name)
    else tokensError? (earlier ++ [name]) names

namespace Draft

/-- Whether a state is declared. -/
def hasState (d : Draft) (state : String) : Bool :=
  (Table.find? state d.states).isSome

/-- The inclusive states other than the initial one, in order. -/
def inclusiveStates (d : Draft) : List String :=
  (d.states.filter fun (name, kind) ↦ kind == .inclusive && name != initialState).map (·.1)

/-- The draft that declarations start from, or what is wrong with their tokens. -/
def start (ds : List Declaration) : Except DefinitionError Draft :=
  let names := declaredTokens ds
  if names.isEmpty then .error .noTokens
  else
    match tokensError? [] names with
    | some e => .error e
    | none =>
      .ok ⟨names, declaredStates ds, Table.empty.insert initialState (.new initialState),
        .empty, .empty, []⟩

/-- Gives every inclusive state the lexemes of the initial one that it lacks. -/
def inherit (d : Draft) : Draft :=
  let initial := (d.tables.get? initialState).elim [] (·.lexemes)
  { d with tables := d.inclusiveStates.foldl (fun tables name ↦
      tables.modify name (.new name) (·.update initial)) d.tables }

/-- Registers a lexeme in some states, unless it is there under the same rule name already. -/
def register (raw : String) (l : Lexeme) (d : Draft) : List String → Except DefinitionError Draft
  | [] => .ok d
  | state :: states =>
    if d.keys.contains (state, l.name) then .error (.ruleRedefined raw)
    else
      register raw l
        { d with
          keys := d.keys ++ [(state, l.name)]
          tables := d.tables.modify state (.new state) (·.register l) } states

/-- Adds a rule. -/
def addRule (d : Draft) (raw : String) (pattern : Pattern) (action : Option Action) :
    Except DefinitionError Draft :=
  let name := RuleName.resolve d.hasState raw
  if name.token.toList.isEmpty then .error (.badTokenName raw)
  else if isUppercaseName name.token && !d.tokens.contains name.token then
    .error (.undeclaredToken raw name.token)
  else
    match pattern.compile with
    | .error reason => .error (.invalidPattern raw reason)
    | .ok matcher => do
      let d ← d.register raw ⟨name.token, matcher, action⟩ name.targets
      return d.inherit

/-- Gives every inclusive state that has none the initial state's characters to ignore and its error
entry. -/
def backfill (d : Draft) : Draft :=
  let fill {α : Type} (value : Option α) (t : Table α) : Table α :=
    match value with
    | none => t
    | some v => d.inclusiveStates.foldl (fun t name ↦ t.insertNew name v) t
  { d with
    ignores := fill (d.ignores.get? initialState) d.ignores
    errors := fill (d.errors.get? initialState) d.errors }

/-- Sets what some states ignore. -/
def setIgnore (d : Draft) (states : Option String) (chars : IgnoreSet) : Draft :=
  backfill { d with
    ignores := (namedStates states).foldl (fun t name ↦ t.insert name chars) d.ignores }

/-- Sets what some states do about unrecognized characters. -/
def setError (d : Draft) (states : Option String) (handler : Option Action) : Draft :=
  backfill { d with
    errors := (namedStates states).foldl (fun t name ↦ t.insert name handler) d.errors }

/-- The names that are not declared states, among those that a declaration gives. -/
def undeclared (d : Draft) (states : Option String) : List String :=
  (namedStates states).filter (!d.hasState ·)

/-- Applies a declaration; the list of tokens and the states apply from the start. -/
def apply (d : Draft) : Declaration → Except DefinitionError Draft
  | .tokens _ | .states _ => .ok d
  | .rule name pattern action => d.addRule name pattern action
  | .ignore states chars => .ok (d.setIgnore states chars)
  | .error states handler => .ok (d.setError states handler)

/-- What is logged when a declaration is applied. -/
def eventsOf (d : Draft) : Declaration → List Event
  | .tokens _ | .states _ | .rule _ _ _ => []
  | .ignore states _ => (d.undeclared states).map .ignoreForUndeclared
  | .error states _ => (d.undeclared states).map .errorForUndeclared

/-- Applies declarations in order; what is logged on the way comes with the result. -/
def applyAll (d : Draft) : List Declaration → List Event × Except DefinitionError Draft
  | [] => ([], .ok d)
  | decl :: decls =>
    match d.apply decl with
    | .error e => (d.eventsOf decl, .error e)
    | .ok d' =>
      let (events, result) := applyAll d' decls
      (d.eventsOf decl ++ events, result)

/-- The compiled rules of a draft that has seen all declarations. -/
def finish (d : Draft) : RuleSet :=
  let d := backfill (inherit { d with ignores := d.ignores.insertNew initialState .default })
  ⟨d.tokens, d.states, d.tables, d.ignores, d.errors, d.keys.length⟩

end Draft

namespace RuleSet

/-- Compiles declarations; what is logged on the way comes with the rules or the first error. -/
def build (ds : List Declaration) : List Event × Except DefinitionError RuleSet :=
  match Draft.start ds with
  | .error e => ([], .error e)
  | .ok d =>
    let (events, result) := d.applyAll ds
    (events, result.map Draft.finish)

/-- The compiled rules of declarations, or the first error found. -/
def ofDeclarations (ds : List Declaration) : Except DefinitionError RuleSet :=
  (build ds).2

end RuleSet

end ModalLexer
