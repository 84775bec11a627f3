import ModalLexer.Regex.Expr
import ModalLexer.Text.ByteRange
import ModalLexer.Text.Utf8
import Std.Data.HashMap

/-!
# How much memory an expression takes

An expression is searched for with two automata that read the UTF-8 form of a text byte by byte: one
forwards, which also follows the groups, and one backwards. It is refused when one of them takes
more than `Footprint.limit`. A node of an automaton takes 32 bytes, with 8 more for each transition
of a node with several, and 4 more for each way on from a node that branches.

What this amounts to for a class depends on how much its characters' forms have in common. Forwards,
equal ends of forms share their nodes, backwards equal starts, as far as a table remembers them: it
has few places, the place of a node follows from where the node leads, and a node put into the table
drives out the one that had its place. So the nodes are numbered here as they would be made.
-/

namespace ModalLexer.Regex

open Text (ByteRange)
open Unicode (Spans)

/-- The memory for an automaton: the number of its nodes, and the bytes for transitions and ways
on. -/
structure Footprint where
  nodes : Nat
  links : Nat

namespace Footprint

/-- The memory in bytes. -/
def bytes (f : Footprint) : Nat :=
  32 * f.nodes + f.links

/-- The greatest memory that an automaton may take, in bytes. -/
def limit : Nat := 10 * 1024 * 1024

/-- A footprint within the limit. -/
def checked (f : Footprint) : Option Footprint :=
  if f.bytes ≤ limit then some f else none

/-- The footprint with more nodes and links; none if it exceeds the limit. -/
def add (nodes links : Nat) (f : Footprint) : Option Footprint :=
  checked ⟨f.nodes + nodes, f.links + links⟩

end Footprint

/-! ### Classes -/

/-- A table of nodes by what leads out of them, with a limited number of places. At a place stands a
key and the node with it. -/
structure NodeTable where
  places : Nat
  entries : Std.HashMap Nat (List Nat × Nat)

namespace NodeTable

/-- A table with nothing in it. -/
def ofPlaces (places : Nat) : NodeTable := ⟨places, ∅⟩

/-- The place of a key: its numbers, one after another, are mixed into a 64-bit word by exclusive
or and a multiplication. -/
def place (t : NodeTable) (key : List Nat) : Nat :=
  let word := key.foldl (fun h n ↦ (h ^^^ n.toUInt64) * 0x100000001B3) 0xCBF29CE484222325
  word.toNat % t.places

/-- The node that the table has for a key, or else a fresh one, which the table has from now on. -/
def nodeFor (t : NodeTable) (key : List Nat) (fresh : Nat) : Nat × NodeTable :=
  let place := t.place key
  let known :=
    match t.entries[place]? with
    | some (other, node) => if other = key then some node else none
    | none => none
  match known with
  | some node => (node, t)
  | none => (fresh, ⟨t.places, t.entries.insert place (key, fresh)⟩)

end NodeTable

/-- Adds the nodes that read a class backwards: a node for each byte range, leading to the one for
the byte before it, under a node that branches to the last bytes. -/
def growBackwards (forms : List (List ByteRange)) (f : Footprint) : Footprint :=
  let finish := f.nodes + 1
  let (nodes, _) := forms.foldl (fun (state : Nat × NodeTable) form ↦
    (form.foldl (fun (previous, nodes, table) (a, b) ↦
      let (node, table) := table.nodeFor [previous, a, b] nodes
      (node, max nodes (node + 1), table)) (finish, state)).2) (f.nodes + 2, .ofPlaces 1000)
  ⟨nodes, f.links + 4 * forms.length⟩

/-- Forms by their first byte ranges, equal ones being neighbours. -/
def byHead : List (List ByteRange) → List (ByteRange × List (List ByteRange))
  | [] => []
  | [] :: forms => byHead forms
  | (r :: rest) :: forms =>
    match byHead forms with
    | (s, rests) :: more =>
      if r = s then (r, rest :: rests) :: more else (r, [rest]) :: (s, rests) :: more
    | [] => [(r, [rest])]

/-- The node that reads forms of a bounded length, after the nodes that it leads to; at the end of a
form it leads to `finish`. -/
def growNode (finish : Nat) :
    Nat → List (List ByteRange) → Footprint × NodeTable → Nat × Footprint × NodeTable
  | 0, _, state => (finish, state)
  | bound + 1, forms, state =>
    let (key, f, table) := (byHead forms).foldl (fun (key, state) ((a, b), rests) ↦
      if rests.all (·.isEmpty) then (key ++ [a, b, finish], state)
      else
        let (node, state) := growNode finish bound rests state
        (key ++ [a, b, node], state)) ([], state)
    let (node, table) := table.nodeFor key f.nodes
    if node = f.nodes then (node, ⟨f.nodes + 1, f.links + 8 * (key.length / 3)⟩, table)
    else (node, f, table)

/-- Adds the nodes that read a class forwards. -/
def growForwards (forms : List (List ByteRange)) (f : Footprint) : Footprint :=
  (growNode f.nodes 4 forms (⟨f.nodes + 1, f.links⟩, .ofPlaces 10000)).2.1

/-- Adds the nodes that read a class. One node is enough for characters of a single byte. -/
def growClass (backwards : Bool) (cls : Spans) (f : Footprint) : Footprint :=
  let runs := cls.runs
  if runs.all (·.2 < 128) then ⟨f.nodes + 2, f.links + 8 * runs.length⟩
  else
    let forms := runs.flatMap fun (a, b) ↦ Text.forms a b
    if backwards then growBackwards forms f else growForwards forms f

/-! ### Choices between texts -/

/-- Cuts a list of words where one is empty, which stands for a match: what comes before it is
preferred to that match, what comes after it is not. A match that follows another at once is left
out. -/
def sections (words : List (List Nat)) : List (List (List Nat)) :=
  let (done, current) := words.foldl (fun (done, current) word ↦
    if !word.isEmpty then (done, current ++ [word])
    else if current.isEmpty && !done.isEmpty && done.all (·.isEmpty) then (done, current)
    else (done ++ [current], [])) (([] : List (List (List Nat))), [])
  done ++ [current]

/-- Adds the nodes that read one of several words of bounded length, words with a common start
sharing the nodes for it: a node for the first bytes of each section, and one that branches to the
sections and to the matches between them. -/
def growWords : Nat → List (List Nat) → Footprint → Footprint
  | 0, _, f => f
  | bound + 1, words, f =>
    let sections := sections words
    let f := sections.foldl (fun f group ↦
      let heads := (group.filterMap List.head?).eraseDups
      let f := heads.foldl (fun f head ↦
        let rests := (group.filter fun word ↦ word.head? == some head).map List.tail
        if rests.all (·.isEmpty) then f else growWords bound rests f) f
      match heads.length with
      | 0 => f
      | 1 => ⟨f.nodes + 1, f.links⟩
      | n => ⟨f.nodes + 1, f.links + 8 * n⟩) f
    let ways := sections.countP (!·.isEmpty) + (sections.length - 1)
    ⟨f.nodes + 1, f.links + 4 * ways⟩

/-- The bytes of a text, in the order in which they are read. -/
def wordOf (backwards : Bool) (chars : List Char) : List Nat :=
  let bytes := (chars.flatMap String.utf8EncodeChar).map UInt8.toNat
  if backwards then bytes.reverse else bytes

/-- The text that an expression consists of. -/
def Expr.text? : Expr → Option (List Char)
  | text cs => some cs
  | _ => none

/-! ### Expressions -/

/-- Adds the same over and over again. -/
def times (step : Footprint → Option Footprint) : Nat → Footprint → Option Footprint
  | 0, f => some f
  | n + 1, f =>
    match step f with
    | some f => times step n f
    | none => none

/-- What an expression is to a choice around it: there is none, or the expression is the second
branch or a later one, with those after it. -/
inductive Role where
  | whole
  | second
  | later

/-- Adds what joins a branch to its choice: once there are two, a node that branches and one where
the branches meet. -/
def Role.join : Role → Footprint → Option Footprint
  | whole, f => some f
  | second, f => f.add 2 8
  | later, f => f.add 0 4

namespace Expr

/-- Adds the nodes for an expression, in the order in which they are made. -/
def grow (backwards : Bool) : Expr → Role → Footprint → Option Footprint
  | empty, role, f => do role.join (← f.add 1 0)
  | look _, role, f => do role.join (← f.add 1 0)
  | text cs, role, f => do role.join (← f.add (Text.utf8Length cs) 0)
  | one cls, role, f => do role.join (← (growClass backwards cls f).checked)
  | capture _ sub, role, f => do
    if backwards then role.join (← sub.grow backwards .whole f)
    else
      let f ← sub.grow backwards .whole (← f.add 1 0)
      role.join (← f.add 1 0)
  | seq a b, role, f => do
    if backwards then
      let f ← b.grow backwards .whole f
      role.join (← a.grow backwards .whole f)
    else
      let f ← a.grow backwards .whole f
      role.join (← b.grow backwards .whole f)
  | either a b, .whole, f =>
    match (either a b).branches.mapM text? with
    | some texts =>
      let words := texts.map (wordOf backwards)
      let bound := (words.map List.length).foldl max 0 + 1
      (growWords bound words ⟨f.nodes + 1, f.links⟩).checked
    | none => do
      let f ← a.grow backwards .whole f
      b.grow backwards .second f
  | either a b, role, f => do
    let f ← role.join (← a.grow backwards .whole f)
    b.grow backwards .later f
  | repetition least none _ sub, role, f => do
    match least with
    | 0 =>
      if sub.consumes then role.join (← sub.grow backwards .whole (← f.add 1 8))
      else
        let f ← sub.grow backwards .whole f
        role.join (← f.add 3 16)
    | n + 1 =>
      let f ← times (sub.grow backwards .whole) (n + 1) f
      role.join (← f.add 1 8)
  | repetition least (some most) _ sub, role, f => do
    if least = most then role.join (← times (sub.grow backwards .whole) least f)
    else if least = 0 ∧ most = 1 then
      let f ← sub.grow backwards .whole (← f.add 1 8)
      role.join (← f.add 1 0)
    else
      let f ← times (sub.grow backwards .whole) least f
      let f ← f.add (if least = 0 then 2 else 1) 0
      role.join (← times (fun f ↦ do sub.grow backwards .whole (← f.add 1 8)) (most - least) f)

/-- The nodes before an expression. Unless it is bound to the place where reading starts, anything
may come before. -/
def lead (bound : Bool) : Option Footprint :=
  if bound then Footprint.add 1 0 ⟨0, 0⟩ else Footprint.add 3 16 ⟨0, 0⟩

/-- The automaton that reads forwards; none if it is too large. The whole expression counts as a
group, and a last node stands for the match. -/
def forwards? (e : Expr) : Option Footprint := do
  let f ← e.grow false .whole (← (← lead e.startsText).add 1 0)
  f.add 2 0

/-- The automaton that reads backwards; none if it is too large. -/
def backwards? (e : Expr) : Option Footprint := do
  let f ← e.grow true .whole (← lead e.endsText)
  f.add 1 0

/-- Whether an expression takes no more memory than it may. -/
def fits (e : Expr) : Bool :=
  e.forwards?.isSome && e.backwards?.isSome

end Expr

end ModalLexer.Regex
