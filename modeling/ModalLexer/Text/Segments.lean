/-!
# Texts in segments

A text falls into segments at its underscores. There is one segment more than there are underscores,
and any of them may be empty. Joining the segments again gives the text back (`join_segments`), and
segments without underscores, as all segments are (`notMem_of_mem_segments`), are found again
(`segments_join`).
-/

namespace ModalLexer.Text

/-- The parts of a text between underscores. -/
def splitSegments : List Char → List (List Char)
  | [] => [[]]
  | c :: cs =>
    if c = '_' then [] :: splitSegments cs
    else
      match splitSegments cs with
      | [] => [[c]]
      | s :: rest => (c :: s) :: rest

/-- Parts with underscores between them. -/
def joinSegments : List (List Char) → List Char
  | [] => []
  | [s] => s
  | s :: rest => s ++ '_' :: joinSegments rest

/-- The segments of a text. -/
def segments (text : String) : List String :=
  (splitSegments text.toList).map String.ofList

/-- Segments with underscores between them. -/
def join (parts : List String) : String :=
  String.ofList (joinSegments (parts.map String.toList))

private theorem splitSegments_ne_nil (cs : List Char) : splitSegments cs ≠ [] := by
  cases cs with
  | nil => simp [splitSegments]
  | cons c cs =>
    rw [splitSegments]
    split
    · simp
    · split <;> simp

/-- Every text has a segment. -/
theorem segments_ne_nil (text : String) : segments text ≠ [] := by
  simp [segments, splitSegments_ne_nil]

private theorem joinSegments_cons {s : List Char} {rest : List (List Char)} (h : rest ≠ []) :
    joinSegments (s :: rest) = s ++ '_' :: joinSegments rest := by
  cases rest with
  | nil => exact absurd rfl h
  | cons t rest => rfl

private theorem joinSegments_append {parts rest : List (List Char)} (hparts : parts ≠ [])
    (hrest : rest ≠ []) :
    joinSegments (parts ++ rest) = joinSegments parts ++ '_' :: joinSegments rest := by
  induction parts with
  | nil => exact absurd rfl hparts
  | cons s parts ih =>
    rw [List.cons_append, joinSegments_cons (by simp [hrest])]
    by_cases hnil : parts = []
    · rw [hnil]
      rfl
    · rw [ih hnil, joinSegments_cons hnil, List.append_assoc, List.cons_append]

private theorem joinSegments_splitSegments (cs : List Char) :
    joinSegments (splitSegments cs) = cs := by
  induction cs with
  | nil => rfl
  | cons c cs ih =>
    rw [splitSegments]
    split
    · next h => rw [joinSegments_cons (splitSegments_ne_nil cs), ih, h]; rfl
    · split
      · next h => exact absurd h (splitSegments_ne_nil cs)
      · next s rest h =>
        rw [h] at ih
        cases rest with
        | nil => exact congrArg (c :: ·) ih
        | cons t rest => exact congrArg (c :: ·) ih

/-- Parts that are joined in two groups, with an underscore between the groups, are joined. -/
theorem join_append {parts rest : List String} (hparts : parts ≠ []) (hrest : rest ≠ []) :
    join (parts ++ rest) = join parts ++ "_" ++ join rest := by
  rw [join, List.map_append, joinSegments_append (by simpa using hparts) (by simpa using hrest),
    ← List.singleton_append, String.ofList_append, String.ofList_append, String.append_assoc]
  rfl

/-- Joining the segments of a text gives the text. -/
@[simp] theorem join_segments (text : String) : join (segments text) = text := by
  simp [join, segments, Function.comp_def, joinSegments_splitSegments]

private theorem splitSegments_append {s : List Char} (hs : '_' ∉ s) (cs : List Char) :
    splitSegments (s ++ '_' :: cs) = s :: splitSegments cs := by
  induction s with
  | nil => simp [splitSegments]
  | cons c s ih =>
    have hc : c ≠ '_' := fun h ↦ hs (h ▸ List.mem_cons_self)
    rw [List.cons_append, splitSegments, if_neg hc, ih fun h ↦ hs (List.mem_cons_of_mem c h)]

private theorem splitSegments_of_notMem {s : List Char} (hs : '_' ∉ s) : splitSegments s = [s] := by
  induction s with
  | nil => rfl
  | cons c s ih =>
    have hc : c ≠ '_' := fun h ↦ hs (h ▸ List.mem_cons_self)
    rw [splitSegments, if_neg hc, ih fun h ↦ hs (List.mem_cons_of_mem c h)]

private theorem splitSegments_joinSegments {parts : List (List Char)} (hne : parts ≠ [])
    (h : ∀ s ∈ parts, '_' ∉ s) : splitSegments (joinSegments parts) = parts := by
  induction parts with
  | nil => exact absurd rfl hne
  | cons s rest ih =>
    cases rest with
    | nil => exact splitSegments_of_notMem (h s List.mem_cons_self)
    | cons t rest =>
      rw [joinSegments_cons (by simp), splitSegments_append (h s List.mem_cons_self),
        ih (by simp) fun u hu ↦ h u (List.mem_cons_of_mem s hu)]

/-- Segments without underscores are the segments of the text they make up. -/
theorem segments_join {parts : List String} (hne : parts ≠ []) (h : ∀ s ∈ parts, '_' ∉ s.toList) :
    segments (join parts) = parts := by
  rw [segments, join, String.toList_ofList,
    splitSegments_joinSegments (by simpa using hne) (by simpa using h)]
  simp [Function.comp_def]

private theorem notMem_of_mem_splitSegments {cs s : List Char} (h : s ∈ splitSegments cs) :
    '_' ∉ s := by
  induction cs generalizing s with
  | nil => simp_all [splitSegments]
  | cons c cs ih =>
    rw [splitSegments] at h
    split at h
    · rcases List.mem_cons.1 h with rfl | h
      · simp
      · exact ih h
    · next hc =>
      split at h
      · next hnil => exact absurd hnil (splitSegments_ne_nil cs)
      · next first rest hfirst =>
        rcases List.mem_cons.1 h with rfl | hrest
        · rw [List.mem_cons, not_or]
          exact ⟨Ne.symm hc, ih (hfirst ▸ List.mem_cons_self)⟩
        · exact ih (hfirst ▸ List.mem_cons_of_mem first hrest)

/-- No segment of a text has an underscore. -/
theorem notMem_of_mem_segments {text segment : String} (h : segment ∈ segments text) :
    '_' ∉ segment.toList := by
  obtain ⟨cs, hcs, rfl⟩ := List.mem_map.1 h
  rw [String.toList_ofList]
  exact notMem_of_mem_splitSegments hcs

/-- A text without underscores is its only segment. -/
theorem segments_of_notMem {text : String} (h : '_' ∉ text.toList) : segments text = [text] := by
  rw [segments, splitSegments_of_notMem h, List.map_singleton, String.ofList_toList]

/-- A text is one of its segments just if it has no underscore. -/
theorem mem_segments_self_iff {text : String} : text ∈ segments text ↔ '_' ∉ text.toList := by
  constructor
  · exact notMem_of_mem_segments
  · intro h
    rw [segments_of_notMem h]
    exact List.mem_cons_self

end ModalLexer.Text
