import ModalLexer.Action.Step
import ModalLexer.Lexer
import ModalLexer.Proofs.Requests

/-!
# A scan partitions its text

What a scan has passed is what its steps have consumed, one after another, and each step is one that
the rules of its state allow. A step hands on all that it consumes if nothing is ignored or skipped
and the candidate is emitted with its text; if all steps do, the tokens make up the text.
-/

namespace ModalLexer

open Text (Spot)

/-- The text that tokens carry, one after another. -/
def textOf (tokens : List Token) : List Char :=
  tokens.flatMap fun token ↦ token.text?.elim [] String.toList

/-- A step that hands on all that it consumes: nothing is ignored, the action does not ask for
characters to be skipped, and a token with the text of the candidate is emitted. -/
def Stride.Lossless : Stride → Prop
  | .ignored _ => False
  | .decided d => (∀ n, .skip n ∉ d.requests) ∧
      ∃ token, d.verdict = .emit token ∧ token.text? = d.candidate.text?

private theorem foldl_pending_eq_zero {rs : List Request} (h : ∀ n, .skip n ∉ rs) :
    rs.foldl Request.pending 0 = 0 := by
  induction rs with
  | nil => rfl
  | cons r rs ih =>
    have hr : r.pending 0 = 0 := by
      cases r with
      | skip n => exact absurd List.mem_cons_self (h n)
      | _ => rfl
    rw [List.foldl_cons, hr]
    exact ih fun n hn ↦ h n (List.mem_cons_of_mem r hn)

namespace Machine

variable {m : Machine} {s s' : Spot} {k k' : Cursor} {σs : List Stride}

/-- A step that hands on all it consumes skips nothing, and its token carries the text. -/
theorem Takes.text_of_lossless {σ : Stride} (hm : m.nested.LeavesNoSkip) (hk : k.pendingSkip = 0)
    (h : m.Takes s k σ s' k') (hσ : σ.Lossless) :
    ∃ token, σ.token? = some token ∧ token.text?.elim [] String.toList = σ.text := by
  cases h with
  | ignored => exact hσ.elim
  | @decided d k₁ journal hdecides hcandidate hrequests hperformed hskipped =>
    obtain ⟨hskip, token, hverdict, htext⟩ := hσ
    have hpending : k₁.pendingSkip = 0 := by
      have := perform_pendingSkip hm hperformed
      rw [this, hk, ← hrequests, foldl_pending_eq_zero hskip]
    have hnothing : d.skipped = [] := by
      rw [hskipped, hpending, UInt64.toNat_zero, List.take_zero]
    have hcarried : token.text? = some (String.ofList d.text) := by
      rw [htext, hcandidate]
      rfl
    refine ⟨token, by rw [Stride.token?, hverdict]; rfl, ?_⟩
    rw [hcarried, Option.elim_some, String.toList_ofList, Stride.text, hnothing, List.append_nil]

/-- If all steps of a run hand on what they consume, the tokens make it up. -/
theorem Run.textOf_of_lossless (hm : m.nested.LeavesNoSkip) (hk : k.pendingSkip = 0)
    (h : m.Run s k σs s' k') (hσs : ∀ σ ∈ σs, σ.Lossless) :
    textOf (σs.filterMap (·.token?)) = σs.flatMap (·.text) := by
  induction h with
  | nil => rfl
  | @cons s s₁ s' k k₁ k' σ σs first rest ih =>
    obtain ⟨hσ, hrest⟩ := List.forall_mem_cons.1 hσs
    obtain ⟨token, htoken, htext⟩ := first.text_of_lossless hm hk hσ
    rw [List.filterMap_cons_some htoken, textOf, List.flatMap_cons, htext, List.flatMap_cons]
    congr 1
    exact ih (first.pendingSkip_eq hk) hrest

/-- A run from the start of a text passes a first part of it, which ends at a byte offset. -/
theorem Run.splitBytes?_eq {text : List Char} (h : m.Run (.start text) k σs s' k') :
    Text.splitBytes? s'.offset text = some (σs.flatMap (·.text), s'.ahead) := by
  rw [Text.splitBytes?_eq_some_iff]
  constructor
  · exact h.ahead_eq
  · rw [Spot.offset, h.behind_eq]
    simp [Spot.start]

/-- What a scan gives first does not depend on how much more it is asked for. -/
theorem pulls_of_append {count : Nat} {scan : Scan} {before after : List Pull}
    (h : m.pulls count scan = some (before ++ after)) :
    m.pulls before.length scan = some before := by
  induction before generalizing count scan with
  | nil => rfl
  | cons p before ih =>
    cases count with
    | zero => cases h
    | succ count =>
      rw [pulls, Option.bind_eq_some_iff] at h
      obtain ⟨pull, hnext, hrest⟩ := h
      rw [List.length_cons, pulls, hnext, Option.bind_some]
      split at hrest
      · next hend =>
        simp only [Option.some.injEq, List.cons_append, List.cons.injEq, List.nil_eq,
          List.append_eq_nil_iff] at hrest
        obtain ⟨rfl, rfl, -⟩ := hrest
        rw [if_pos hend]
      · next hmore =>
        obtain ⟨ps, hps, heq⟩ := Option.map_eq_some_iff.1 hrest
        obtain ⟨rfl, rfl⟩ := List.cons.inj heq
        rw [if_neg hmore, ih hps, Option.map_some]

end Machine

namespace Lexer

/-- Where a scan of a text stands after what it gave. -/
def scanAfter (l : Lexer) (text : String) (ps : List Pull) : Scan :=
  Machine.standing (l.scan text) ps

/-- Whatever an engine was left with, and however often a scan of a text is asked for what comes
next: before the first error, the scan has passed a first part of the text, which the steps of one
run have consumed in order and without a gap. The tokens given are those that the steps emitted. The
end is reported at the end of the text only, and tokens of steps that hand on all that they consume
make up what was passed. -/
theorem scan_partition (l : Lexer) (depth count : Nat) (text : String) {before after : List Pull}
    (h : (l.machine depth).pulls count (l.scan text) = some (before ++ after))
    (hok : ∀ p ∈ before, ∀ e, p.item ≠ some (.error e)) :
    ∃ σs,
      (l.machine depth).Run (l.scan text).spot (l.scan text).cursor σs
        (l.scanAfter text before).spot (l.scanAfter text before).cursor ∧
      Text.splitBytes? (l.scanAfter text before).spot.offset text.toList =
        some (σs.flatMap (·.text), (l.scanAfter text before).spot.ahead) ∧
      before.filterMap (·.token?) = σs.filterMap (·.token?) ∧
      ((∃ p ∈ before, p.item = none) →
        (l.scanAfter text before).spot.offset = text.utf8ByteSize) ∧
      ((∀ σ ∈ σs, σ.Lossless) → textOf (before.filterMap (·.token?)) = σs.flatMap (·.text)) := by
  obtain ⟨σs, hrun, htokens, hend⟩ := Machine.pulls_run rfl (Machine.pulls_of_append h) hok
  have hsplit := hrun.splitBytes?_eq
  refine ⟨σs, hrun, hsplit, htokens, ?_, ?_⟩
  · intro hover
    obtain ⟨htext, hlength⟩ := Text.splitBytes?_eq_some_iff.1 hsplit
    rw [hend hover, List.append_nil] at htext
    rw [scanAfter, ← hlength, ← htext, Text.utf8Length_toList]
  · intro hlossless
    have hm : (l.machine depth).nested.LeavesNoSkip :=
      Machine.leavesNoSkip_nestedOfDepth l.rules l.config depth
    rw [htokens]
    exact hrun.textOf_of_lossless hm rfl hlossless

/-- Words of small letters, between which blanks are ignored; what is no word is dropped together
with the two characters after it. -/
def wordDeclarations : List Declaration :=
  [.tokens ["WORD"],
   .rule "WORD" (.repetition (.charClass ⟨[('a', 'z'), ('é', 'é')]⟩) 1 none) none,
   .ignore none (.chars " "),
   .error none (some (Step.action [.skip 2, .suppress]))]

/-- The lexer for words. -/
def wordLexer : Lexer :=
  (define wordDeclarations .quiet).toOption.get (by decide +kernel)

/-- Words, blanks and characters that are skipped or not. -/
theorem scan_partition_wordLexer :
    ∃ ps, (wordLexer.machine 0).pulls 3 (wordLexer.scan "dé #12 if#") = some (ps ++ []) ∧
      (∃ p ∈ ps, p.item = none) ∧
      ∃ σs, (wordLexer.machine 0).Run (wordLexer.scan "dé #12 if#").spot
          (wordLexer.scan "dé #12 if#").cursor σs
          (wordLexer.scanAfter "dé #12 if#" ps).spot
          (wordLexer.scanAfter "dé #12 if#" ps).cursor ∧
        σs.flatMap (·.text) = "dé #12 if#".toList ∧
        ps.filterMap (·.token?) = σs.filterMap (·.token?) := by
  have hsome : ((wordLexer.machine 0).pulls 3 (wordLexer.scan "dé #12 if#")).isSome = true := by
    decide +kernel
  obtain ⟨ps, hps⟩ := Option.isSome_iff_exists.1 hsome
  have hitems : ps.map (fun p ↦ p.item.map (·.isOk)) = [some true, some true, none] := by
    have : ((wordLexer.machine 0).pulls 3 (wordLexer.scan "dé #12 if#")).map
        (·.map fun p ↦ p.item.map (·.isOk)) = some [some true, some true, none] := by
      decide +kernel
    rw [hps] at this
    exact Option.some.inj this
  have hok : ∀ p ∈ ps, ∀ e, p.item ≠ some (.error e) := by
    intro p hp e he
    have hmem := List.mem_map_of_mem (f := fun p : Pull ↦ p.item.map (·.isOk)) hp
    rw [hitems, he] at hmem
    simp [Except.isOk, Except.toBool] at hmem
  have hover : ∃ p ∈ ps, p.item = none := by
    have hmem : none ∈ ps.map (fun p ↦ p.item.map (·.isOk)) := by
      rw [hitems]
      decide
    obtain ⟨p, hp, hitem⟩ := List.mem_map.1 hmem
    exact ⟨p, hp, Option.map_eq_none_iff.1 hitem⟩
  rw [← List.append_nil ps] at hps
  obtain ⟨σs, hrun, hsplit, htokens, hend, _⟩ := scan_partition wordLexer 0 3 "dé #12 if#" hps hok
  obtain ⟨htext, hlength⟩ := Text.splitBytes?_eq_some_iff.1 hsplit
  refine ⟨ps, hps, hover, σs, hrun, ?_, htokens⟩
  rw [hend hover, ← Text.utf8Length_toList] at hlength
  rw [htext, Text.utf8Length_append] at hlength
  have hahead : (wordLexer.scanAfter "dé #12 if#" ps).spot.ahead = [] := by
    rw [← Text.utf8Length_eq_zero_iff]
    omega
  rw [htext, hahead, List.append_nil]

end Lexer

end ModalLexer
