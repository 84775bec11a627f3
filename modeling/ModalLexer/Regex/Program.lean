import ModalLexer.Regex.Expr

/-!
# Regular expressions as programs

A program is a list of instructions, each naming the instructions that may follow it. It runs
through a text with a list of threads, the preferred one first; `Program.run` gives the end of the
leftmost match that is preferred. An instruction is entered once at each place at most, so the
work at each place is bounded by the size of the program, and an empty turn of a loop ends it.

A run never reports an end beyond the text: `Program.run_le`.
-/

namespace ModalLexer.Regex

open Unicode (Spans)

/-- One step of a program: it takes a character of a class, goes on if a requirement on the place is
met, goes on in one of two ways, the first being preferred, or ends a match. -/
inductive Instruction where
  | take (cls : Spans) (next : Nat)
  | require (look : Look) (next : Nat)
  | split (first second : Nat)
  | accept

/-- A regular expression in the form that is run: its instructions, and where to start. -/
structure Program where
  code : Array Instruction
  entry : Nat

namespace Program

/-- A choice between going on with a loop and leaving it. -/
def choice (greedy : Bool) (again leave : Nat) : Instruction :=
  if greedy then .split again leave else .split leave again

/-- Puts a number of copies of something, each followed by the next, before `next`. -/
def copies (emit : Array Instruction → Nat → Array Instruction × Nat) :
    Nat → Array Instruction → Nat → Array Instruction × Nat
  | 0, code, next => (code, next)
  | n + 1, code, next =>
    let (code, next) := emit code next
    copies emit n code next

/-- Puts a number of optional copies of something before `next`, each entered from the one before
it only. -/
def options (greedy : Bool) (leave : Nat)
    (emit : Array Instruction → Nat → Array Instruction × Nat) :
    Nat → Array Instruction → Nat → Array Instruction × Nat
  | 0, code, next => (code, next)
  | n + 1, code, next =>
    let (code, again) := emit code next
    options greedy leave emit n (code.push (choice greedy again leave)) code.size

/-- Puts a loop over something before `next`: the place of the choice that ends each turn, and the
start of a turn. -/
def loop (greedy : Bool) (emit : Array Instruction → Nat → Array Instruction × Nat)
    (code : Array Instruction) (next : Nat) : Array Instruction × Nat × Nat :=
  let turn := code.size
  let (code, again) := emit (code.push .accept) turn
  (code.setIfInBounds turn (choice greedy again next), turn, again)

/-- Puts the instructions for some characters before `next`, one for each. -/
def spell : List Char → Array Instruction → Nat → Array Instruction × Nat
  | [], code, next => (code, next)
  | c :: cs, code, next =>
    let (code, next) := spell cs code next
    (code.push (.take (.single c) next), code.size)

/-- Puts the instructions for an expression before `next`: the instructions, and the first of
them. -/
def emit : Expr → Array Instruction → Nat → Array Instruction × Nat
  | .empty, code, next => (code, next)
  | .text cs, code, next => spell cs code next
  | .one cls, code, next => (code.push (.take cls next), code.size)
  | .look l, code, next => (code.push (.require l next), code.size)
  | .capture _ sub, code, next => emit sub code next
  | .seq a b, code, next =>
    let (code, next) := emit b code next
    emit a code next
  | .either a b, code, next =>
    let (code, second) := emit b code next
    let (code, first) := emit a code next
    (code.push (.split first second), code.size)
  | .repetition least (some most) greedy sub, code, next =>
    let (code, next) := options greedy next (emit sub) (most - least) code next
    copies (emit sub) least code next
  | .repetition least none greedy sub, code, next =>
    let (code, turn, again) := loop greedy (emit sub) code next
    match least with
    | 0 =>
      if sub.consumes then (code, turn) else (code.push (choice greedy again next), code.size)
    | n + 1 => copies (emit sub) n code again

/-- The program for an expression. -/
def ofExpr (e : Expr) : Program :=
  let (code, entry) := emit e #[.accept] 0
  ⟨code, entry⟩

/-- What a thread waits for: a character of a class, after which it goes on at an instruction. -/
abbrev Thread := Spans × Nat

/-- Follows instructions that take no character, from a stack of them, the preferred one on top.
The threads come in order of preference; the flag says that a match ends here, in which case what is
less preferred is given up. The bits of `seen` mark the instructions entered before. -/
def follow (p : Program) (holds : Look → Bool) :
    Nat → List Nat → Nat → List Thread → List Thread × Bool
  | 0, _, _, threads => (threads.reverse, false)
  | _ + 1, [], _, threads => (threads.reverse, false)
  | bound + 1, i :: stack, seen, threads =>
    if seen.testBit i then follow p holds bound stack seen threads
    else
      let seen := seen ||| (1 <<< i)
      match p.code[i]? with
      | none => follow p holds bound stack seen threads
      | some (.take cls next) => follow p holds bound stack seen ((cls, next) :: threads)
      | some (.require look next) =>
        follow p holds bound (if holds look then next :: stack else stack) seen threads
      | some (.split first second) => follow p holds bound (first :: second :: stack) seen threads
      | some .accept => (threads.reverse, true)

/-- Follows instructions until every thread waits for a character. Each instruction adds two others
to the stack at most, which bounds the number of steps. -/
def settle (p : Program) (holds : Look → Bool) (stack : List Nat) : List Thread × Bool :=
  follow p holds (2 * p.code.size + stack.length + 1) stack 0 []

/-- Whether a match can start at the start of the text only. -/
def isAnchored (p : Program) : Bool :=
  let (threads, accepts) := settle p (· != .startText) [p.entry]
  threads.isEmpty && !accepts

/-- The instructions at which to start at a place: as long as there is no match, and unless matches
start at the start only, a new thread starts everywhere. -/
def entries (p : Program) (anchored : Bool) (taken : Nat) (found : Option Nat) : List Nat :=
  if found.isNone && (taken == 0 || !anchored) then [p.entry] else []

/-- The best match so far, once it is known whether a match ends at a place. -/
def improve (accepts : Bool) (taken : Nat) (found : Option Nat) : Option Nat :=
  if accepts then some taken else found

/-- The instructions at which threads go on after a character. -/
def survivors (c : Char) (threads : List Thread) : List Nat :=
  threads.filterMap fun (cls, next) ↦ if cls.contains c then some next else none

/-- Runs the threads that are waiting at a place `taken` characters into the text, the best match so
far being `found`. Threads that start here are less preferred than all others. -/
def run (p : Program) (anchored : Bool) (before : Option Char) (waiting : List Nat)
    (taken : Nat) (found : Option Nat) : List Char → Option Nat
  | [] =>
    let (_, accepts) :=
      p.settle (·.holds before none) (waiting ++ p.entries anchored taken found)
    improve accepts taken found
  | c :: ahead =>
    let (threads, accepts) :=
      p.settle (·.holds before (some c)) (waiting ++ p.entries anchored taken found)
    let found := improve accepts taken found
    let waiting := survivors c threads
    if waiting.isEmpty && (found.isSome || anchored) then found
    else run p anchored (some c) waiting (taken + 1) found ahead

private theorem le_of_mem_improve {accepts : Bool} {taken : Nat} {found : Option Nat}
    (h : ∀ m ∈ found, m ≤ taken) : ∀ m ∈ improve accepts taken found, m ≤ taken := by
  unfold improve
  split
  · simp
  · exact h

/-- A match ends within the text. -/
theorem run_le (p : Program) (anchored : Bool) {text : List Char} :
    ∀ {before : Option Char} {waiting : List Nat} {taken n : Nat} {found : Option Nat},
      (∀ m ∈ found, m ≤ taken) → p.run anchored before waiting taken found text = some n →
      n ≤ taken + text.length := by
  induction text with
  | nil =>
    intro before waiting taken n found hfound h
    exact le_of_mem_improve hfound n h
  | cons c ahead ih =>
    intro before waiting taken n found hfound h
    simp only [run] at h
    split at h
    · have := le_of_mem_improve hfound n h
      omega
    · have := ih (fun m hm ↦ Nat.le_succ_of_le (le_of_mem_improve hfound m hm)) h
      rw [List.length_cons]
      omega

end Program

end ModalLexer.Regex
