import GemEmulation.Foundations.Text

/-!
# Lines of texts

Where a part of a text is found again in the whole, and texts whose lines are
edited one by one.
-/

namespace GemEmulation.Text

theorem occursIn_iff (pattern text : List Char) :
    occursIn pattern text = true ↔ pattern <:+: text := by
  induction text with
  | nil => simp [occursIn]
  | cons c rest inductionHypothesis =>
      rw [occursIn, Bool.or_eq_true, inductionHypothesis, List.isPrefixOf_iff_prefix,
        List.infix_cons_iff]

theorem contains_iff (text pattern : String) :
    contains text pattern = true ↔ pattern.toList <:+: text.toList :=
  occursIn_iff pattern.toList text.toList

theorem not_mem_of_mem_split {text part : String} {separator : Char}
    (listed : part ∈ split text separator) : separator ∉ part.toList := by
  have letters : ∀ part ∈ text.toList.splitOn separator, separator ∉ part := by
    induction text.toList with
    | nil => simp
    | cons c rest inductionHypothesis =>
        rw [List.splitOn_cons_eq_if_modifyHead]
        split
        next => simpa using inductionHypothesis
        next other =>
          obtain ⟨first, others, parts⟩ :=
            List.exists_cons_of_ne_nil (List.splitOn_ne_nil separator rest)
          rw [parts, List.forall_mem_cons] at inductionHypothesis
          rw [parts, List.modifyHead_cons, List.forall_mem_cons]
          refine ⟨?_, inductionHypothesis.2⟩
          have different : separator ≠ c := by
            rintro rfl
            simp at other
          simp [different, inductionHypothesis.1]
  obtain ⟨found, isPart, rfl⟩ := List.mem_map.mp listed
  rw [String.toList_ofList]
  exact letters found isPart

theorem infix_join {parts : List String} {part : String} (listed : part ∈ parts)
    (separator : String) : part.toList <:+: (join parts separator).toList := by
  have letters : part.toList ∈ parts.map String.toList := List.mem_map_of_mem listed
  rw [join, String.toList_intercalate]
  generalize parts.map String.toList = texts at letters
  induction texts with
  | nil => simp at letters
  | cons first rest inductionHypothesis =>
      cases rest with
      | nil =>
          rw [List.mem_singleton] at letters
          simp [letters]
      | cons second others =>
          rw [List.intercalate_cons_cons]
          rcases List.mem_cons.mp letters with rfl | later
          · rw [List.append_assoc]
            exact (List.prefix_append _ _).isInfix
          · exact (inductionHypothesis later).trans (List.suffix_append _ _).isInfix

def insertAfter (asks : String → Bool) (added : String) (lines : List String) : List String :=
  lines.flatMap fun line => if asks line then [line, added] else [line]

theorem filter_insertAfter {asks : String → Bool} {added : String} {lines : List String}
    (new : added ∉ lines) :
    (insertAfter asks added lines).filter (fun line => decide (line ≠ added)) = lines := by
  induction lines with
  | nil => rfl
  | cons first rest inductionHypothesis =>
      rw [List.mem_cons, not_or] at new
      have other : first ≠ added := Ne.symm new.1
      rw [insertAfter, List.flatMap_cons, ← insertAfter, List.filter_append,
        inductionHypothesis new.2]
      by_cases asking : asks first = true <;> simp [asking, other]

theorem mem_insertAfter {asks : String → Bool} {added line : String} {lines : List String}
    (listed : line ∈ insertAfter asks added lines) : line ∈ lines ∨ line = added := by
  obtain ⟨source, isLine, made⟩ := List.mem_flatMap.mp listed
  split at made
  next =>
    simp only [List.mem_cons, List.not_mem_nil, or_false] at made
    rcases made with rfl | rfl
    · exact .inl isLine
    · exact .inr rfl
  next =>
    rw [List.mem_singleton] at made
    exact .inl (made ▸ isLine)

theorem insertAfter_eq_or_mem (asks : String → Bool) (added : String) (lines : List String) :
    insertAfter asks added lines = lines ∨ added ∈ insertAfter asks added lines := by
  induction lines with
  | nil => exact .inl rfl
  | cons first rest inductionHypothesis =>
      rw [insertAfter, List.flatMap_cons, ← insertAfter]
      by_cases asking : asks first = true
      · exact .inr (by simp [asking])
      · rcases inductionHypothesis with same | listed
        · exact .inl (by simp [asking, same])
        · exact .inr (List.mem_append_right _ listed)

end GemEmulation.Text
