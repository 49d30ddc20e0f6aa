import GemEmulation.Operator.Gateway.Backends
import GemEmulation.Operator.PodMutator.Allocator

/-!
# Names of network-status entries

The allocator tests whether the name of an entry is that of a Network or ends in a
slash and that name; the Gateway compares what follows the last slash.
-/

namespace GemEmulation.Text

/-- The characters after the last separator of a text that ends in a part without one. -/
theorem afterLast_append {front part : String} {separator : Char}
    (absent : separator ∉ part.toList) :
    afterLast separator (front ++ .ofList (separator :: part.toList)) = part := by
  have kept : ∀ c ∈ part.toList, decide (c ≠ separator) = true := by
    intro c listed
    rw [decide_eq_true_eq]
    rintro rfl
    exact absent listed
  rw [afterLast, String.toList_append, String.toList_ofList, List.rtakeWhile,
    List.reverse_append, List.reverse_cons, List.append_assoc,
    List.takeWhile_append_of_pos (fun c listed => kept c (List.mem_reverse.mp listed))]
  simp

theorem afterLast_absent {text : String} {separator : Char} (absent : separator ∉ text.toList) :
    afterLast separator text = text := by
  have kept : ∀ c ∈ text.toList.reverse, decide (c ≠ separator) = true := by
    intro c listed
    rw [decide_eq_true_eq]
    rintro rfl
    exact absent (List.mem_reverse.mp listed)
  rw [afterLast, List.rtakeWhile, List.takeWhile_eq_self_iff.mpr kept, List.reverse_reverse,
    String.ofList_toList]

theorem exists_afterLast {text : String} {separator : Char} (present : separator ∈ text.toList) :
    ∃ front part : String, separator ∉ part.toList ∧
      text = front ++ .ofList (separator :: part.toList) := by
  obtain ⟨back, front, shape, absent⟩ :=
    List.eq_append_cons_of_mem (List.mem_reverse.mpr present)
  refine ⟨.ofList front.reverse, .ofList back.reverse, by simpa using absent, ?_⟩
  rw [← String.toList_inj, ← List.reverse_inj, shape]
  simp

/-- A part without the separator is what follows the last separator exactly when the text
is that part, or ends in the separator and the part. -/
theorem afterLast_eq_iff {text part : String} {separator : Char}
    (absent : separator ∉ part.toList) :
    afterLast separator text = part ↔
      text = part ∨ ∃ front, text = front ++ .ofList (separator :: part.toList) := by
  constructor
  · intro same
    by_cases present : separator ∈ text.toList
    · obtain ⟨front, last, lastAbsent, rfl⟩ := exists_afterLast present
      rw [afterLast_append lastAbsent] at same
      exact .inr ⟨front, by rw [same]⟩
    · rw [afterLast_absent present] at same
      exact .inl same
  · rintro (rfl | ⟨front, rfl⟩)
    · exact afterLast_absent absent
    · exact afterLast_append absent

end GemEmulation.Text

namespace GemEmulation.Operator

/-- For a Network name without a slash, both components attribute the same entries to the
Network. -/
theorem statusNames_eq_networkStatusNameMatches {netName : String}
    (noSlash : '/' ∉ netName.toList) (status : NetworkStatus) :
    statusNames netName status = networkStatusNameMatches status.name netName := by
  have suffix : "/" ++ netName = .ofList ('/' :: netName.toList) := by
    rw [← String.toList_inj]
    simp
  rw [Bool.eq_iff_iff, statusNames, Bool.or_eq_true, decide_eq_true_eq, Text.hasSuffix_iff, suffix,
    networkStatusNameMatches, decide_eq_true_eq, Text.afterLast_eq_iff noSlash]

theorem statusNames_vlan :
    statusNames "vlan-1" ⟨"default/vlan-12", []⟩ =
      networkStatusNameMatches "default/vlan-12" "vlan-1" :=
  statusNames_eq_networkStatusNameMatches (by decide) ⟨"default/vlan-12", []⟩

end GemEmulation.Operator
