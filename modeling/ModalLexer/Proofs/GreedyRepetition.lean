import ModalLexer.Proofs.Progress

/-!
# What a repetition matches

A repetition takes matches one after another, none of them empty, until its upper bound is reached
or nothing matches any more; it matches what they take if there are as many as its lower bound says
(`lengthAt_eq_some_iff_chain`). Where what is repeated is a character of a class or a fixed text,
this is the longest first part of what is ahead that consists of so many of them
(`span?_repetition_eq_some_iff`).
-/

namespace ModalLexer

open Text (Spot)

namespace Matcher

variable {m inner : Matcher} {least : Nat} {most : Option Nat} {text : List Char}
  {offset stop count : Nat} {s s' : Spot} {ns : List Nat}

/-! ### Chains of matches -/

/-- So many matches that are not empty, each starting where the one before it ended, lead from one
offset to another. -/
inductive Chain (m : Matcher) (text : List Char) : Nat → Nat → Nat → Prop
  | nil (offset : Nat) : Chain m text 0 offset offset
  | cons {count offset length stop : Nat} (first : m.lengthAt text offset = some length)
      (rest : Chain m text count (offset + length) stop) : Chain m text (count + 1) offset stop

/-- Where a match ends at a spot, there is the spot that many characters further. -/
theorem at?_of_lengthAt {length : Nat} (hs : Spot.at? text offset = some s)
    (h : m.lengthAt text offset = some length) :
    ∃ n, m.span? s = some n ∧ Spot.at? text (offset + length) = some (s.advance n) := by
  rw [lengthAt_of_at? hs] at h
  obtain ⟨n, hn, rfl⟩ := Option.map_eq_some_iff.1 h
  obtain ⟨htext, hoffset⟩ := Spot.at?_eq_some_iff.1 hs
  refine ⟨n, hn, Spot.at?_eq_some_iff.2 ⟨?_, ?_⟩⟩
  · rw [Spot.text_advance, htext]
  · rw [Spot.offset_advance, hoffset]

/-- The rounds of a loop are a chain of matches, which is no longer than the upper bound allows and
ends where that is reached or nothing matches. -/
theorem Loop.chain (h : m.Loop most s ns s') :
    Chain m s.text ns.length s.offset s'.offset ∧ (∀ bound, most = some bound → ns.length ≤ bound) ∧
      (most = some ns.length ∨ m.span? s' = none) := by
  induction h with
  | stop hover =>
    refine ⟨.nil _, ?_, hover⟩
    intro bound _
    exact Nat.zero_le bound
  | @round most s s' n ns allowed matched rest ih =>
    obtain ⟨hchain, hbound, hend⟩ := ih
    rw [Spot.text_advance, Spot.offset_advance] at hchain
    refine ⟨.cons ?_ hchain, ?_, ?_⟩
    · rw [lengthAt_offset, matched, Option.map_some]
    · intro bound hmost
      subst hmost
      have hpos : bound ≠ 0 := fun hzero ↦ allowed (congrArg some hzero)
      have := hbound (bound - 1) rfl
      rw [List.length_cons]
      omega
    · rcases hend with hmost | hnone
      · left
        obtain ⟨bound, rfl, hcount⟩ := Option.map_eq_some_iff.1 hmost
        have hpos : bound ≠ 0 := fun hzero ↦ allowed (congrArg some hzero)
        rw [List.length_cons, ← hcount]
        congr 1
        omega
      · exact .inr hnone

/-- A chain of matches that the upper bound allows, and that ends where it is reached or nothing
matches, is the rounds of a loop. -/
theorem Chain.loop (h : Chain m text count offset stop) (hs : Spot.at? text offset = some s)
    (hbound : ∀ bound, most = some bound → count ≤ bound)
    (hend : most = some count ∨ m.lengthAt text stop = none) :
    ∃ ns s', m.Loop most s ns s' ∧ ns.length = count ∧ Spot.at? text stop = some s' := by
  induction h generalizing most s with
  | nil offset =>
    refine ⟨[], s, .stop ?_, rfl, hs⟩
    rw [lengthAt_of_at? hs, Option.map_eq_none_iff] at hend
    exact hend
  | @cons count offset length stop first rest ih =>
    obtain ⟨n, hn, hnext⟩ := at?_of_lengthAt hs first
    have hallowed : most ≠ some 0 := by
      intro hzero
      have := hbound 0 hzero
      omega
    have hbound' : ∀ bound, most.map (· - 1) = some bound → count ≤ bound := by
      intro bound hmost
      obtain ⟨b, hb, rfl⟩ := Option.map_eq_some_iff.1 hmost
      have := hbound b hb
      omega
    have hend' : most.map (· - 1) = some count ∨ m.lengthAt text stop = none :=
      hend.imp_left fun hmost ↦ by rw [hmost, Option.map_some, Nat.add_sub_cancel]
    obtain ⟨ns, s', hloop, hcount, hstop⟩ := ih hnext hbound' hend'
    exact ⟨n :: ns, s', .round hallowed hn hloop, by rw [List.length_cons, hcount], hstop⟩

/-- The characters that a repetition matches: what its loop takes, if there are rounds enough and
they take any. -/
theorem Loop.span?_repetition (h : inner.Loop most s ns s') (least : Nat) :
    (repetition inner least most).span? s =
      if least ≤ ns.length ∧ 0 < ns.sum then some ns.sum else none := by
  rw [span?, h.rawSpan?_repetition]
  by_cases hleast : least ≤ ns.length
  · by_cases hsum : 0 < ns.sum
    · simp [hleast, hsum]
    · have hzero : ns.sum = 0 := by omega
      simp [hleast, hzero]
  · simp [hleast]

/-- A repetition matches a chain of matches that has at least one byte and as many members as its
bounds allow, and that ends where the upper bound is reached or nothing matches any more. -/
theorem lengthAt_eq_some_iff_chain {length : Nat} :
    (repetition inner least most).lengthAt text offset = some length ↔
      0 < length ∧ ∃ count, least ≤ count ∧ (∀ bound, most = some bound → count ≤ bound) ∧
        Chain inner text count offset (offset + length) ∧
        (most = some count ∨ inner.lengthAt text (offset + length) = none) := by
  constructor
  · intro h
    have hpos := (piece_of_lengthAt h).pos
    obtain ⟨s, hs, hspan⟩ := Option.bind_eq_some_iff.1 h
    obtain ⟨n, hn, rfl⟩ := Option.map_eq_some_iff.1 hspan
    obtain ⟨htext, hoffset⟩ := Spot.at?_eq_some_iff.1 hs
    obtain ⟨ns, s', hloop⟩ := exists_loop inner most s
    rw [hloop.span?_repetition] at hn
    split at hn
    · next henough =>
      cases hn
      obtain ⟨hchain, hbound, hend⟩ := hloop.chain
      have hstop : s'.offset = offset + Text.utf8Length (s.ahead.take ns.sum) := by
        rw [hloop.spot_eq, Spot.offset_advance, hoffset]
      have hs' : Spot.at? text s'.offset = some s' :=
        Spot.at?_eq_some_iff.2 ⟨by rw [hloop.spot_eq, Spot.text_advance, htext], rfl⟩
      refine ⟨hpos, ns.length, henough.1, hbound, ?_, ?_⟩
      · rw [← hstop, ← hoffset, ← htext]
        exact hchain
      · rw [← hstop, lengthAt_of_at? hs', Option.map_eq_none_iff]
        exact hend
    · cases hn
  · rintro ⟨hpos, count, hleast, hbound, hchain, hend⟩
    have hat : ∃ s, Spot.at? text offset = some s := by
      generalize hstop : offset + length = stop at hchain
      cases hchain with
      | nil => omega
      | cons first _ =>
        obtain ⟨s, hs, _⟩ := Option.bind_eq_some_iff.1 first
        exact ⟨s, hs⟩
    obtain ⟨s, hs⟩ := hat
    obtain ⟨ns, s', hloop, rfl, hs'⟩ := hchain.loop hs hbound hend
    have hoffset := (Spot.at?_eq_some_iff.1 hs).2
    have hstop := (Spot.at?_eq_some_iff.1 hs').2
    rw [hloop.spot_eq, Spot.offset_advance, hoffset, Nat.add_left_cancel_iff] at hstop
    have hsum : 0 < ns.sum := by
      apply Nat.pos_of_ne_zero
      intro hzero
      rw [hzero, List.take_zero, Text.utf8Length_nil] at hstop
      omega
    rw [lengthAt_of_at? hs, hloop.span?_repetition, if_pos ⟨hleast, hsum⟩, Option.map_some, hstop]

/-! ### Repeated words -/

/-- A matcher matches a word: put at the start of it, it matches all of it. -/
def Spells (m : Matcher) (word : List Char) : Prop :=
  m.rawSpan? (.start word) = some word.length

/-- A text consists of as many words of a matcher as the bounds allow. -/
def Repeats (m : Matcher) (least : Nat) (most : Option Nat) (text : List Char) : Prop :=
  ∃ words : List (List Char), (∀ word ∈ words, m.Spells word) ∧ words.flatten = text ∧
    least ≤ words.length ∧ ∀ bound, most = some bound → words.length ≤ bound

/-- A matcher reads words: it matches just the word of it that lies next ahead, and if it has the
empty word it has no other one. -/
structure ReadsWords (m : Matcher) : Prop where
  span?_eq_some_iff : ∀ (s : Spot) (n : Nat),
    m.span? s = some n ↔ 0 < n ∧ n ≤ s.ahead.length ∧ m.Spells (s.ahead.take n)
  eq_nil : m.Spells [] → ∀ word, m.Spells word → word = []

private theorem spells_literal_iff {text : String} {word : List Char} :
    (literal text).Spells word ↔ word = text.toList := by
  rw [Spells, rawSpan?, Spot.start]
  split
  · next hfront =>
    have hfront : text.toList <+: word := by simpa using hfront
    rw [Option.some.injEq]
    constructor
    · intro hlength
      exact (hfront.eq_of_length hlength).symm
    · intro hword
      rw [hword]
  · next hfront =>
    simp only [reduceCtorEq, false_iff]
    rintro rfl
    simp at hfront

private theorem spells_charClass_iff {set : CharSet} {word : List Char} :
    (charClass set).Spells word ↔ ∃ c, word = [c] ∧ set.contains c = true := by
  rw [Spells, rawSpan?, Spot.start]
  cases word with
  | nil => simp
  | cons c word =>
    by_cases hc : set.contains c = true
    · cases word with
      | nil => simp [hc]
      | cons d word => simp [hc]
    · simp [hc]

/-- A fixed text is the only word of its matcher. -/
theorem readsWords_literal (text : String) : (literal text).ReadsWords := by
  refine ⟨?_, ?_⟩
  · intro s n
    rw [spells_literal_iff, span?, rawSpan?]
    by_cases hfront : text.toList <+: s.ahead
    · rw [if_pos (by simpa using hfront), Option.filter_eq_some_iff, Option.some.injEq,
        decide_eq_true_iff]
      constructor
      · rintro ⟨rfl, hpos⟩
        exact ⟨hpos, hfront.length_le, (List.prefix_iff_eq_take.1 hfront).symm⟩
      · rintro ⟨hpos, hle, htake⟩
        rw [← htake, List.length_take, Nat.min_eq_left hle]
        exact ⟨rfl, hpos⟩
    · rw [if_neg (by simpa using hfront)]
      simp only [Option.filter_none, reduceCtorEq, false_iff]
      rintro ⟨_, _, htake⟩
      exact hfront (htake ▸ List.take_prefix n s.ahead)
  · intro hnil word hword
    rw [spells_literal_iff] at hnil hword
    rw [hword, ← hnil]

/-- The words of a class are its characters. -/
theorem readsWords_charClass (set : CharSet) : (charClass set).ReadsWords := by
  refine ⟨?_, ?_⟩
  · intro s n
    rw [spells_charClass_iff, span?, rawSpan?]
    cases hahead : s.ahead with
    | nil => simp
    | cons c rest =>
      by_cases hc : set.contains c = true
      · simp only [hc, if_true, Option.filter_eq_some_iff, Option.some.injEq, decide_eq_true_iff]
        constructor
        · rintro ⟨rfl, hpos⟩
          exact ⟨hpos, by simp, c, by simp, hc⟩
        · rintro ⟨hpos, hle, d, htake, _⟩
          have hlength := congrArg List.length htake
          rw [List.length_take, Nat.min_eq_left hle, List.length_singleton] at hlength
          exact ⟨hlength.symm, hpos⟩
      · simp only [hc, Bool.false_eq_true, if_false, Option.filter_none, reduceCtorEq, false_iff]
        rintro ⟨hpos, _, d, htake, hd⟩
        obtain ⟨n, rfl⟩ := Nat.exists_eq_succ_of_ne_zero (Nat.pos_iff_ne_zero.1 hpos)
        obtain ⟨rfl, _⟩ := List.cons.inj htake
        exact hc hd
  · intro hnil
    obtain ⟨c, hc, _⟩ := spells_charClass_iff.1 hnil
    cases hc

/-- The rounds of a loop take words. -/
theorem Loop.exists_words (hm : m.ReadsWords) (h : m.Loop most s ns s') :
    ∃ words : List (List Char), (∀ word ∈ words, m.Spells word) ∧
      words.flatten = s.ahead.take ns.sum ∧ words.length = ns.length := by
  induction h with
  | stop => exact ⟨[], by simp, by simp, rfl⟩
  | @round most s s' n ns allowed matched rest ih =>
    obtain ⟨words, hwords, hflatten, hlength⟩ := ih
    obtain ⟨_, _, hspells⟩ := (hm.span?_eq_some_iff s n).1 matched
    refine ⟨s.ahead.take n :: words, List.forall_mem_cons.2 ⟨hspells, hwords⟩, ?_, ?_⟩
    · rw [List.flatten_cons, hflatten, Spot.ahead_advance, List.sum_cons, List.take_add]
    · rw [List.length_cons, List.length_cons, hlength]

/-- No words that lie ahead, as few as the upper bound allows, are more or longer than the rounds of
a loop. -/
theorem Loop.words_le (hm : m.ReadsWords) (h : m.Loop most s ns s') {words : List (List Char)}
    (hwords : ∀ word ∈ words, m.Spells word ∧ word ≠ []) (hahead : words.flatten <+: s.ahead)
    (hbound : ∀ bound, most = some bound → words.length ≤ bound) :
    words.length ≤ ns.length ∧ words.flatten.length ≤ ns.sum := by
  induction h generalizing words with
  | @stop most s hover =>
    cases words with
    | nil => simp
    | cons word words =>
      exfalso
      obtain ⟨⟨hspells, hne⟩, _⟩ := List.forall_mem_cons.1 hwords
      rcases hover with hmost | hnone
      · have := hbound 0 hmost
        simp at this
      · have hfront : word <+: s.ahead := (List.prefix_append _ _).trans hahead
        have hmatch : m.span? s = some word.length := (hm.span?_eq_some_iff s _).2
          ⟨List.length_pos_iff.2 hne, hfront.length_le,
            (List.prefix_iff_eq_take.1 hfront) ▸ hspells⟩
        rw [hnone] at hmatch
        cases hmatch
  | @round most s s' n ns allowed matched rest ih =>
    cases words with
    | nil => simp
    | cons word words =>
      obtain ⟨⟨hspells, hne⟩, hrest⟩ := List.forall_mem_cons.1 hwords
      have hfront : word <+: s.ahead := (List.prefix_append _ _).trans hahead
      have hmatch : m.span? s = some word.length := (hm.span?_eq_some_iff s _).2
        ⟨List.length_pos_iff.2 hne, hfront.length_le,
          (List.prefix_iff_eq_take.1 hfront) ▸ hspells⟩
      have hn : n = word.length := Option.some.inj (matched.symm.trans hmatch)
      have hahead' : words.flatten <+: (s.advance n).ahead := by
        obtain ⟨back, hback⟩ := hahead
        rw [Spot.ahead_advance, hn, ← hback, List.flatten_cons, List.append_assoc, List.drop_left]
        exact List.prefix_append _ _
      have hbound' : ∀ bound, most.map (· - 1) = some bound → words.length ≤ bound := by
        intro bound hmost
        obtain ⟨b, hb, rfl⟩ := Option.map_eq_some_iff.1 hmost
        have := hbound b hb
        rw [List.length_cons] at this
        omega
      obtain ⟨hcount, hsum⟩ := ih hrest hahead' hbound'
      rw [List.flatten_cons, List.length_append, List.length_cons, List.length_cons, List.sum_cons]
      omega

/-- What is repeated often enough and takes a character: the loop has as many rounds as that, and
takes as much. -/
theorem Repeats.le (hm : inner.ReadsWords) (h : inner.Loop most s ns s') {word : List Char}
    (hrepeats : inner.Repeats least most word) (hahead : word <+: s.ahead) (hne : word ≠ []) :
    least ≤ ns.length ∧ word.length ≤ ns.sum := by
  obtain ⟨words, hwords, rfl, hleast, hbound⟩ := hrepeats
  have hwords' : ∀ w ∈ words, inner.Spells w ∧ w ≠ [] := by
    intro w hw
    refine ⟨hwords w hw, ?_⟩
    rintro rfl
    exact hne (List.flatten_eq_nil_iff.2 fun v hv ↦ hm.eq_nil (hwords [] hw) v (hwords v hv))
  obtain ⟨hcount, hsum⟩ := h.words_le hm hwords' hahead hbound
  exact ⟨Nat.le_trans hleast hcount, hsum⟩

/-- What a loop takes is repeated as often as it has rounds. -/
theorem Loop.repeats (hm : inner.ReadsWords) (h : inner.Loop most s ns s')
    (hleast : least ≤ ns.length) : inner.Repeats least most (s.ahead.take ns.sum) := by
  obtain ⟨words, hwords, hflatten, hlength⟩ := h.exists_words hm
  refine ⟨words, hwords, hflatten, hlength ▸ hleast, ?_⟩
  rw [hlength]
  exact h.chain.2.1

/-- A repetition of words matches the longest first part of what is ahead that consists of as many
words as its bounds allow. -/
theorem span?_repetition_eq_some_iff (hm : inner.ReadsWords) {n : Nat} :
    (repetition inner least most).span? s = some n ↔
      ∃ word, word <+: s.ahead ∧ word ≠ [] ∧ inner.Repeats least most word ∧ word.length = n ∧
        ∀ other, other <+: s.ahead → inner.Repeats least most other →
          other.length ≤ word.length := by
  obtain ⟨ns, s', hloop⟩ := exists_loop inner most s
  have htake : (s.ahead.take ns.sum).length = ns.sum := by
    rw [List.length_take, Nat.min_eq_left hloop.sum_le]
  rw [hloop.span?_repetition]
  constructor
  · intro h
    split at h
    · next henough =>
      cases h
      refine ⟨s.ahead.take ns.sum, List.take_prefix _ _, ?_, hloop.repeats hm henough.1, htake, ?_⟩
      · intro hnil
        rw [hnil, List.length_nil] at htake
        omega
      · intro other hahead hrepeats
        by_cases hne : other = []
        · simp [hne]
        · rw [htake]
          exact (hrepeats.le hm hloop hahead hne).2
    · cases h
  · rintro ⟨word, hahead, hne, hrepeats, rfl, hlongest⟩
    obtain ⟨hleast, hle⟩ := hrepeats.le hm hloop hahead hne
    have hpos := List.length_pos_iff.2 hne
    have hge := hlongest _ (List.take_prefix ns.sum s.ahead) (hloop.repeats hm hleast)
    rw [htake] at hge
    rw [if_pos ⟨hleast, by omega⟩, Nat.le_antisymm hge hle]

/-- A repetition of words matches nothing just if no first part of what is ahead consists of as many
words as its bounds allow, the empty one apart. -/
theorem span?_repetition_eq_none_iff (hm : inner.ReadsWords) :
    (repetition inner least most).span? s = none ↔
      ∀ word, word <+: s.ahead → inner.Repeats least most word → word = [] := by
  obtain ⟨ns, s', hloop⟩ := exists_loop inner most s
  rw [hloop.span?_repetition]
  constructor
  · intro h word hahead hrepeats
    by_contra hne
    obtain ⟨hleast, hle⟩ := hrepeats.le hm hloop hahead hne
    have hpos := List.length_pos_iff.2 hne
    rw [if_pos ⟨hleast, by omega⟩] at h
    cases h
  · intro h
    split
    · next henough =>
      have hnil := h _ (List.take_prefix ns.sum s.ahead) (hloop.repeats hm henough.1)
      have hle := hloop.sum_le
      rw [List.take_eq_nil_iff, ← List.length_eq_zero_iff] at hnil
      omega
    · rfl

/-! ### Repetitions that match alike -/

/-- A repetition that may have no round matches as one that must have one. -/
theorem lengthAt_repetition_zero (inner : Matcher) (most : Option Nat) (text : List Char)
    (offset : Nat) :
    (repetition inner 0 most).lengthAt text offset =
      (repetition inner 1 most).lengthAt text offset := by
  apply Option.ext
  intro length
  rw [lengthAt_eq_some_iff_chain, lengthAt_eq_some_iff_chain]
  constructor
  · rintro ⟨hpos, count, _, hbound, hchain, hend⟩
    refine ⟨hpos, count, ?_, hbound, hchain, hend⟩
    apply Nat.pos_of_ne_zero
    rintro rfl
    generalize hstop : offset + length = stop at hchain
    cases hchain
    omega
  · rintro ⟨hpos, count, _, hbound, hchain, hend⟩
    exact ⟨hpos, count, Nat.zero_le count, hbound, hchain, hend⟩

/-- A repetition without an upper bound takes all there is in one round of another one. -/
theorem span?_repetition_repetition (inner : Matcher) (s : Spot) :
    (repetition (repetition inner 1 none) 1 none).span? s =
      (repetition inner 1 none).span? s := by
  obtain ⟨ns, s', hloop⟩ := exists_loop inner none s
  by_cases henough : 1 ≤ ns.length ∧ 0 < ns.sum
  · have hmatch : (repetition inner 1 none).span? s = some ns.sum := by
      rw [hloop.span?_repetition, if_pos henough]
    have hnone : inner.span? s' = none := hloop.chain.2.2.resolve_left (by simp)
    have hstop : inner.Loop none s' [] s' := .stop (.inr hnone)
    have hover : (repetition inner 1 none).span? s' = none := by
      rw [hstop.span?_repetition]
      simp
    rw [hloop.spot_eq] at hover
    have hround : (repetition inner 1 none).Loop none s [ns.sum] (s.advance ns.sum) :=
      .round (by simp) hmatch (.stop (.inr hover))
    rw [hround.span?_repetition, hmatch]
    simp [henough.2]
  · have hmatch : (repetition inner 1 none).span? s = none := by
      rw [hloop.span?_repetition, if_neg henough]
    have hstop : (repetition inner 1 none).Loop none s [] s := .stop (.inr hmatch)
    rw [hstop.span?_repetition, hmatch]
    simp

/-- Compiled, a repetition repeats the matcher of its pattern. At an offset it matches so many bytes
just if they are a chain of matches, as long as its bounds allow, that ends where the upper bound is
reached or nothing matches any more; with an upper bound below the lower one it never matches. A
repetition of a character of a class or of a fixed text matches the longest first part of what is
ahead that consists of as many of them as its bounds allow, and nothing if there is none with a
character in it. It makes no difference whether no round or one is asked for at least, and none
whether what is repeated without an upper bound is itself so repeated. -/
theorem greedy_repetition (pattern : Pattern) (inner : Matcher) (least : Nat) (most : Option Nat)
    (text : List Char) (offset : Nat) :
    (Pattern.repetition pattern least most).compile =
      pattern.compile.map (.repetition · least most) ∧
    (∀ length, (repetition inner least most).lengthAt text offset = some length ↔
      0 < length ∧ ∃ count, least ≤ count ∧ (∀ bound, most = some bound → count ≤ bound) ∧
        Chain inner text count offset (offset + length) ∧
        (most = some count ∨ inner.lengthAt text (offset + length) = none)) ∧
    (∀ bound, most = some bound → bound < least →
      (repetition inner least most).lengthAt text offset = none) ∧
    (((∃ set, inner = .charClass set) ∨ ∃ word, inner = .literal word) →
      ∀ s, Spot.at? text offset = some s →
        (∀ length, (repetition inner least most).lengthAt text offset = some length ↔
          ∃ word, word <+: s.ahead ∧ word ≠ [] ∧ inner.Repeats least most word ∧
            Text.utf8Length word = length ∧ ∀ other, other <+: s.ahead →
              inner.Repeats least most other → other.length ≤ word.length) ∧
        ((repetition inner least most).lengthAt text offset = none ↔
          ∀ word, word <+: s.ahead → inner.Repeats least most word → word = [])) ∧
    (repetition inner 0 most).lengthAt text offset =
      (repetition inner 1 most).lengthAt text offset ∧
    (repetition (repetition inner 1 none) 1 none).lengthAt text offset =
      (repetition inner 1 none).lengthAt text offset := by
  refine ⟨?_, fun _ ↦ lengthAt_eq_some_iff_chain, ?_, ?_, lengthAt_repetition_zero _ _ _ _, ?_⟩
  · rw [Pattern.compile]
    cases pattern.compile <;> rfl
  · intro bound hmost hless
    apply Option.eq_none_iff_forall_ne_some.2
    intro length h
    obtain ⟨_, count, hleast, hbound, _, _⟩ := lengthAt_eq_some_iff_chain.1 h
    have := hbound bound hmost
    omega
  · intro hinner s hs
    have hm : inner.ReadsWords := by
      rcases hinner with ⟨set, rfl⟩ | ⟨word, rfl⟩
      · exact readsWords_charClass set
      · exact readsWords_literal word
    constructor
    · intro length
      rw [lengthAt_of_at? hs, Option.map_eq_some_iff]
      constructor
      · rintro ⟨n, hn, rfl⟩
        obtain ⟨word, hahead, hne, hrepeats, rfl, hlongest⟩ :=
          (span?_repetition_eq_some_iff hm).1 hn
        rw [← List.prefix_iff_eq_take.1 hahead]
        exact ⟨word, hahead, hne, hrepeats, rfl, hlongest⟩
      · rintro ⟨word, hahead, hne, hrepeats, rfl, hlongest⟩
        refine ⟨word.length, (span?_repetition_eq_some_iff hm).2
          ⟨word, hahead, hne, hrepeats, rfl, hlongest⟩, ?_⟩
        rw [← List.prefix_iff_eq_take.1 hahead]
    · rw [lengthAt_of_at? hs, Option.map_eq_none_iff]
      exact span?_repetition_eq_none_iff hm
  · rw [lengthAt, lengthAt]
    simp only [span?_repetition_repetition]

-- The third pair is left alone because of the upper bound.
/-- Two pairs at most: three are not to be had, and of fewer the most are taken. -/
theorem greedy_repetition_pairs :
    (repetition (literal "éb") 3 (some 2)).lengthAt "xébébéb".toList 1 = none ∧
      ∃ word, word <+: ['é', 'b', 'é', 'b', 'é', 'b'] ∧ word ≠ [] ∧
        (literal "éb").Repeats 1 (some 2) word ∧ Text.utf8Length word = 6 ∧
        ∀ other, other <+: ['é', 'b', 'é', 'b', 'é', 'b'] →
          (literal "éb").Repeats 1 (some 2) other → other.length ≤ word.length := by
  have hspot : Spot.at? "xébébéb".toList 1 = some ⟨['x'], ['é', 'b', 'é', 'b', 'é', 'b']⟩ := by
    decide +kernel
  have hlength : (repetition (literal "éb") 1 (some 2)).lengthAt "xébébéb".toList 1 = some 6 := by
    decide +kernel
  obtain ⟨_, _, hnone, _, _, _⟩ :=
    greedy_repetition (.literal "éb") (literal "éb") 3 (some 2) "xébébéb".toList 1
  obtain ⟨_, _, _, hwords, _, _⟩ :=
    greedy_repetition (.literal "éb") (literal "éb") 1 (some 2) "xébébéb".toList 1
  exact ⟨hnone 2 rfl (by decide), ((hwords (.inr ⟨"éb", rfl⟩) _ hspot).1 6).1 hlength⟩

end Matcher

end ModalLexer
