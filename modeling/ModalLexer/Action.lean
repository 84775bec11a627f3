import ModalLexer.Error
import ModalLexer.Token

/-!
# Actions

An action gets a candidate token and decides what becomes of it. What it asks of the engine on the
way is a `Routine`: either it is finished, or it makes a request and goes on with the reply. So an
action is a function of the token and of what the engine tells it, and it can change the engine
through requests only.
-/

namespace ModalLexer

/-- What an action decided: to hand a token to the caller, or to drop the match, whose input is
consumed all the same. -/
inductive Verdict where
  | emit (token : Token)
  | suppress

/-- What an engine shows: its state, the saved states with the last one first, and the line and
column of the next character. -/
structure View where
  state : String
  stack : List String
  position : Position
  deriving DecidableEq

/-- What an action may write down for the caller: the token and the engine as it sees them, an error
that it recovered from, or the tokens of a scan that it started. -/
inductive Note where
  | observed (token : Token) (view : View)
  | caught (e : LexError)
  | nested (tokens : List Token)

/-- What an action may ask of the engine. Characters are skipped once the current match is consumed,
and to rewind is to go back to the first position and state, with none saved. The only scan that can
be started is one of another text, followed to its end: one that is dropped early or followed as a
stream is no request. -/
inductive Request where
  | begin (state : String)
  | push (state : String)
  | pop
  | skip (count : Counter)
  | advanceLine (count : Counter)
  | advanceColumn (count : Counter)
  | rewind
  | look
  | tokenize (input : String)
  | note (n : Note)

/-- What the engine replies to a request. -/
def Request.Reply : Request → Type
  | .begin _ | .push _ | .pop => Except LexError Unit
  | .tokenize _ => Except LexError (List Token)
  | .look => View
  | .skip _ | .advanceLine _ | .advanceColumn _ | .rewind | .note _ => Unit

/-- What an action does: it makes requests, each depending on the replies to the earlier ones, until
it is finished. -/
inductive Routine where
  | finish (outcome : Except LexError Verdict)
  | ask (r : Request) (next : r.Reply → Routine)

/-- What becomes of a candidate token. -/
abbrev Action := Token → Routine

namespace Action

/-- The action that emits its candidate as it is. -/
def keep : Action := fun token ↦ .finish (.ok (.emit token))

/-- The action that drops its match. -/
def drop : Action := fun _ ↦ .finish (.ok .suppress)

/-- The action that fails. -/
def fail (e : LexError) : Action := fun _ ↦ .finish (.error e)

end Action

namespace Routine

/-- A routine with its verdict changed. -/
def mapVerdict (f : Verdict → Verdict) : Routine → Routine
  | finish outcome => finish (outcome.map f)
  | ask r next => ask r fun reply ↦ mapVerdict f (next reply)

/-- What holds of the requests a routine makes, whatever it is told. -/
inductive Asks (P : Request → Prop) : Routine → Prop where
  | finish (outcome : Except LexError Verdict) : Asks P (.finish outcome)
  | ask {r : Request} {next : r.Reply → Routine} (hr : P r) (hnext : ∀ reply, Asks P (next reply)) :
      Asks P (.ask r next)

end Routine

end ModalLexer
