import ModalLexer.Proofs.RulePrefixes

/-!
# Spelling out and reading rule names

The name of a rule for some states is spelled out by writing the states and then the token, with
underscores between them (`RuleName.Spells`). This can be read again if no state has an underscore
in its name and the token does not begin with a state, and a name that is read to have a prefix is
spelled out in no other way (`RuleName.spells_iff`). All other names are tokens of the initial
state.
-/

namespace ModalLexer

/-- What comes before the first underscore of a text. -/
def Text.firstSegment (text : String) : String :=
  (segments text).head (segments_ne_nil text)

namespace RuleName

variable {isState : String → Bool} {raw : String} {n : RuleName}

/-- A text spells out a name: the states and then the token, with underscores between them. There is
a state, all states are declared, none has an underscore, and the token does not begin with a
state. -/
structure Spells (isState : String → Bool) (raw : String) (n : RuleName) : Prop where
  joined : Text.join n.targets ++ "_" ++ n.token = raw
  targets_ne_nil : n.targets ≠ []
  declared : ∀ s ∈ n.targets, isState s = true
  plain : ∀ s ∈ n.targets, '_' ∉ s.toList
  token : isState (Text.firstSegment n.token) = false

namespace Spells

variable (h : Spells isState raw n)
include h

/-- The segments of the text are the states and then those of the token. -/
theorem segments_eq : Text.segments raw = n.targets ++ Text.segments n.token := by
  have hplain : ∀ s ∈ n.targets ++ Text.segments n.token, '_' ∉ s.toList := by
    intro s hs
    rcases List.mem_append.1 hs with htarget | htoken
    · exact h.plain s htarget
    · exact Text.notMem_of_mem_segments htoken
  have hjoin : Text.join (n.targets ++ Text.segments n.token) = raw := by
    rw [Text.join_append h.targets_ne_nil (Text.segments_ne_nil _), Text.join_segments, h.joined]
  rw [← hjoin, Text.segments_join (by simp [h.targets_ne_nil]) hplain]

/-- The text is longer than the token. -/
theorem token_ne : n.token ≠ raw := by
  intro heq
  have hlength := congrArg String.length h.joined
  simp only [heq, String.length_append] at hlength
  have hone : "_".length = 1 := rfl
  omega

private theorem hasPrefix : HasPrefix isState raw := by
  constructor
  · obtain ⟨first, rest, htargets⟩ := List.exists_cons_of_ne_nil h.targets_ne_nil
    refine ⟨first, rest ++ Text.segments n.token, ?_, h.declared first (by simp [htargets])⟩
    rw [h.segments_eq, htargets, List.cons_append]
  · refine ⟨Text.firstSegment n.token, ?_, h.token⟩
    rw [h.segments_eq]
    exact List.mem_append_right _ (List.head_mem _)

/-- What is spelled out is read. -/
theorem resolve_eq : resolve isState raw = n := by
  obtain ⟨first, rest, htoken⟩ := List.exists_cons_of_ne_nil (Text.segments_ne_nil n.token)
  have hfirst : isState first = false := by
    have hother := h.token
    simpa only [Text.firstSegment, htoken, List.head_cons] using hother
  have hother : ¬ isState first = true := by simp [hfirst]
  rw [resolve_of_hasPrefix h.hasPrefix, h.segments_eq, List.takeWhile_append_of_pos h.declared,
    List.dropWhile_append_of_pos h.declared, htoken, List.takeWhile_cons_of_neg hother,
    List.dropWhile_cons_of_neg hother, ← htoken, Text.join_segments, List.append_nil]

end Spells

/-- A name that has a prefix spells out what it is read as. -/
theorem spells_resolve (h : HasPrefix isState raw) : Spells isState raw (resolve isState raw) := by
  obtain ⟨hstates, hrest⟩ := h.parts_ne_nil
  have hplain (part : List String) (hpart : part ⊆ Text.segments raw) (s : String)
      (hs : s ∈ part) : '_' ∉ s.toList :=
    Text.notMem_of_mem_segments (hpart hs)
  rw [resolve_of_hasPrefix h]
  refine ⟨?_, hstates, List.all_eq_true.1 List.all_takeWhile,
    hplain _ (List.takeWhile_prefix _).subset, ?_⟩
  · rw [← Text.join_append hstates hrest, List.takeWhile_append_dropWhile, Text.join_segments]
  · have htoken := Text.segments_join hrest (hplain _ (List.dropWhile_suffix _).subset)
    simp only [Text.firstSegment, htoken]
    exact List.head_dropWhile_not isState hrest

/-- A name is read to have a prefix just if it spells one out, and in one way only. -/
theorem spells_iff : Spells isState raw n ↔ HasPrefix isState raw ∧ resolve isState raw = n := by
  constructor
  · intro h
    exact ⟨h.hasPrefix, h.resolve_eq⟩
  · rintro ⟨h, rfl⟩
    exact spells_resolve h

/-- A name without a prefix is a token of the initial state. -/
theorem resolve_of_not_hasPrefix (h : ¬ HasPrefix isState raw) :
    resolve isState raw = ⟨[initialState], raw⟩ := by
  unfold resolve
  dsimp only
  rw [if_pos]
  rw [Bool.or_eq_true, List.isEmpty_iff, List.isEmpty_iff]
  obtain ⟨first, rest, hsegments⟩ := List.exists_cons_of_ne_nil (Text.segments_ne_nil raw)
  cases hfirst : isState first with
  | false =>
    rw [hsegments, List.takeWhile_cons_of_neg (by simp [hfirst])]
    exact .inl rfl
  | true =>
    refine .inr (List.dropWhile_eq_nil_iff.2 fun s hs ↦ ?_)
    rw [← Bool.not_eq_false]
    exact fun hother ↦ h ⟨⟨first, rest, hsegments, hfirst⟩, s, hs, hother⟩

/-- A name has no prefix just if it does not begin with a state or consists of states only. -/
theorem not_hasPrefix_iff : ¬ HasPrefix isState raw ↔
    isState (Text.firstSegment raw) = false ∨ ∀ s ∈ Text.segments raw, isState s = true := by
  have hfirst : (∃ first rest, Text.segments raw = first :: rest ∧ isState first = true) ↔
      isState (Text.firstSegment raw) = true := by
    obtain ⟨first, rest, hsegments⟩ := List.exists_cons_of_ne_nil (Text.segments_ne_nil raw)
    simp only [Text.firstSegment, hsegments, List.cons.injEq, List.head_cons]
    constructor
    · rintro ⟨_, _, ⟨rfl, _⟩, hstate⟩
      exact hstate
    · intro hstate
      exact ⟨first, rest, ⟨rfl, rfl⟩, hstate⟩
  rw [HasPrefix, hfirst, not_and_or, Bool.not_eq_true]
  simp only [not_exists, not_and, Bool.not_eq_false]

/-- Reading undoes spelling out. States without underscores and a token that does not begin with a
state are read from the text that they spell out. Whatever text is read, if it is not all a token of
the initial state then it is made up of the states and the token that are read; the states are
declared and the token does not begin with one. It is a token of the initial state just if it does
not begin with a state or consists of states only. -/
theorem resolve_spelling (isState : String → Bool) :
    (∀ states token, states ≠ [] → (∀ s ∈ states, isState s = true ∧ '_' ∉ s.toList) →
      isState (Text.firstSegment token) = false →
      resolve isState (Text.join states ++ "_" ++ token) = ⟨states, token⟩) ∧
    ∀ raw,
      (resolve isState raw ≠ ⟨[initialState], raw⟩ →
        Text.join (resolve isState raw).targets ++ "_" ++ (resolve isState raw).token = raw ∧
        (∀ s ∈ (resolve isState raw).targets, isState s = true) ∧
        isState (Text.firstSegment (resolve isState raw).token) = false) ∧
      (resolve isState raw = ⟨[initialState], raw⟩ ↔
        isState (Text.firstSegment raw) = false ∨ ∀ s ∈ Text.segments raw, isState s = true) := by
  constructor
  · intro states token hne hstates htoken
    exact Spells.resolve_eq ⟨rfl, hne, fun s hs ↦ (hstates s hs).1, fun s hs ↦ (hstates s hs).2,
      htoken⟩
  · intro raw
    by_cases h : HasPrefix isState raw
    · have hspells := spells_resolve h
      refine ⟨fun _ ↦ ⟨hspells.joined, hspells.declared, hspells.token⟩, ?_⟩
      rw [← not_hasPrefix_iff]
      refine iff_of_false (fun heq ↦ ?_) (fun hnot ↦ hnot h)
      exact hspells.token_ne (congrArg RuleName.token heq)
    · refine ⟨fun hne ↦ absurd (resolve_of_not_hasPrefix h) hne, ?_⟩
      exact iff_of_true (resolve_of_not_hasPrefix h) (not_hasPrefix_iff.1 h)

/-- A state with an empty name among the states of a rule. -/
theorem resolve_spelling_emptyState :
    resolve ["initial", "tag", ""].contains "tag__WORD_tag" = ⟨["tag", ""], "WORD_tag"⟩ ∧
      resolve ["initial", "tag", ""].contains "WORD_tag" = ⟨["initial"], "WORD_tag"⟩ ∧
      Text.join (resolve ["initial", "tag", ""].contains "_tag_A_").targets ++ "_" ++
        (resolve ["initial", "tag", ""].contains "_tag_A_").token = "_tag_A_" := by
  obtain ⟨hspelled, hread⟩ := resolve_spelling ["initial", "tag", ""].contains
  refine ⟨?_, (hread "WORD_tag").2.2 (.inl (by decide +kernel)),
    ((hread "_tag_A_").1 (by decide +kernel)).1⟩
  exact hspelled ["tag", ""] "WORD_tag" (by decide) (by decide) (by decide +kernel)

end RuleName

end ModalLexer
