import ModalLexer.Action
import ModalLexer.Decimal.Reading
import ModalLexer.Text.Utf8

/-!
# Actions step by step

Most actions are a few simple steps: change the token, change the engine, decide. `Step.action`
makes an action of a list of steps. A step that decides ends the action; if none does, the token is
emitted. An error of the engine ends the action too, unless it arises within an attempt.
-/

namespace ModalLexer

/-- One step of an action. `failAt` fails with the token's value and position as the message, and
`illegal` as for a character that is not recognized. `lineLength` moves down as many lines as the
token's text has bytes. `integer`, `float`, `bool` and `char` replace that text by what it denotes,
or by its first character. `attempt` writes down the error of some steps, if there is one, and goes
on. `tokenizeInner` scans the token's text without its first and last character; both ways to scan
write down the tokens. -/
inductive Step where
  | emit
  | suppress
  | fail (message : String)
  | failAt
  | illegal (c : Char) (line column : Counter)
  | begin (state : String)
  | push (state : String)
  | pop
  | skip (count : Counter)
  | line (count : Counter)
  | column (count : Counter)
  | lineLength
  | rewind
  | rename (name : String)
  | keyword (words : List (String × String))
  | integer
  | float
  | bool
  | char
  | value (v : TokenValue)
  | new (name : String) (v : TokenValue)
  | position (line column : Counter)
  | observe
  | ifText (text : String) (yes no : List Step)
  | ifState (state : String) (yes no : List Step)
  | attempt (steps : List Step)
  | tokenize (input : String)
  | tokenizeInner

namespace Step

/-- The token's text made into a value, if the text denotes one. -/
def convert (read? : String → Option TokenValue) (t : Token) : Token :=
  match t.text?.bind read? with
  | some v => { t with value := v }
  | none => t

/-- A text without its first and last character. -/
def inner (text : String) : String :=
  String.ofList text.toList.tail.dropLast

/-- Makes a request that may fail. -/
def request (fail : LexError → Routine) (next : Routine) (reply : Except LexError Unit) : Routine :=
  match reply with
  | .ok () => next
  | .error e => fail e

/-- Scans another text and writes down its tokens. -/
def scanNested (input : String) (fail : LexError → Routine) (next : Routine) : Routine :=
  .ask (.tokenize input) fun reply ↦
    match reply with
    | .ok tokens => .ask (.note (.nested tokens)) fun _ ↦ next
    | .error e => fail e

mutual

/-- What a step does with a token: how it goes on, and how if the engine refuses something. -/
def routine (t : Token) (fail : Token → LexError → Routine) (next : Token → Routine) :
    Step → Routine
  | emit => .finish (.ok (.emit t))
  | suppress => .finish (.ok .suppress)
  | Step.fail message => fail t (.action message)
  | failAt =>
    fail t (.action (t.value.display ++ " at " ++ toString t.position.line ++ ":" ++
      toString t.position.column))
  | illegal c l k => fail t (.illegalCharacter c l k)
  | begin state => .ask (.begin state) (request (fail t) (next t))
  | push state => .ask (.push state) (request (fail t) (next t))
  | pop => .ask .pop (request (fail t) (next t))
  | skip count => .ask (.skip count) fun _ ↦ next t
  | line count => .ask (.advanceLine count) fun _ ↦ next t
  | column count => .ask (.advanceColumn count) fun _ ↦ next t
  | lineLength =>
    .ask (.advanceLine (t.text?.elim 0 fun s ↦ .ofNat (Text.utf8Length s.toList))) fun _ ↦ next t
  | rewind => .ask .rewind fun _ ↦ next t
  | rename name => next { t with name := name }
  | keyword words =>
    match t.text?.bind fun s ↦ words.lookup s with
    | some name => next { t with name := name }
    | none => next t
  | integer => next (convert (fun s ↦ (Decimal.readInteger? s.toList).map .integer) t)
  | float => next (convert (fun s ↦ (Decimal.readFloat? s.toList).map .float) t)
  | bool => next (convert (fun s ↦ (Decimal.readBool? s).map .bool) t)
  | char => next (convert (fun s ↦ s.toList.head?.map .char) t)
  | value v => next { t with value := v }
  | new name v => next (.new name v)
  | position l k => next { t with position := ⟨l, k⟩ }
  | observe => .ask .look fun view ↦ .ask (.note (.observed t view)) fun _ ↦ next t
  | ifText text yes no =>
    if t.text? = some text then routineAll t fail next yes else routineAll t fail next no
  | ifState state yes no =>
    .ask .look fun view ↦
      if view.state = state then routineAll t fail next yes else routineAll t fail next no
  | attempt steps =>
    routineAll t (fun t e ↦ .ask (.note (.caught e)) fun _ ↦ next t) next steps
  | tokenize input => scanNested input (fail t) (next t)
  | tokenizeInner => scanNested (t.text?.elim "" inner) (fail t) (next t)

/-- What several steps do with a token, one after another. -/
def routineAll (t : Token) (fail : Token → LexError → Routine) (next : Token → Routine) :
    List Step → Routine
  | [] => next t
  | step :: steps => routine t fail (fun t ↦ routineAll t fail next steps) step

end

/-- The action that takes some steps. -/
def action (steps : List Step) : Action := fun token ↦
  routineAll token (fun _ e ↦ .finish (.error e)) Action.keep steps

end Step

end ModalLexer
