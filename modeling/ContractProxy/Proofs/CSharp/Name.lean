import ContractProxy.CSharp.Name

/-!
Which characters stand in names. An identifier holds letters, numerals and underscores, a dotted
name holds dots besides, and neither holds any other mark.
-/

set_option autoImplicit false

namespace ContractProxy

theorem Text.mem_intercalate {mark : Text} {pieces : List Text} {c : Char}
    (h : c ∈ mark.intercalate pieces) : c ∈ mark ∨ ∃ piece ∈ pieces, c ∈ piece := by
  induction pieces with
  | nil => simp at h
  | cons piece rest ih =>
    cases rest with
    | nil => exact .inr ⟨piece, by simp, by simpa using h⟩
    | cons next rest =>
      rw [List.intercalate_cons_cons, List.mem_append, List.mem_append] at h
      rcases h with (h | h) | h
      · exact .inr ⟨piece, by simp, h⟩
      · exact .inl h
      · rcases ih h with hm | ⟨other, ho, hc⟩
        · exact .inl hm
        · exact .inr ⟨other, List.mem_cons_of_mem piece ho, hc⟩

namespace CSharp

theorem continuesIdentifier_of_starts {c : Char} (h : startsIdentifier c = true) :
    continuesIdentifier c = true := by
  simp only [startsIdentifier, Bool.or_eq_true] at h
  simp only [continuesIdentifier, Text.isAlphanumeric, Bool.or_eq_true]
  rcases h with h | h
  · exact .inl h
  · exact .inr (.inr h)

theorem continuesIdentifier_of_mem {name : Text} (h : isIdentifier name = true) {c : Char}
    (hc : c ∈ name) : continuesIdentifier c = true := by
  cases name with
  | nil => simp at hc
  | cons first rest =>
    simp only [isIdentifier, Bool.and_eq_true, List.all_eq_true] at h
    rcases List.mem_cons.mp hc with rfl | hc
    · exact continuesIdentifier_of_starts h.1
    · exact h.2 c hc

theorem eq_dot_or_continues_of_segments {name : Text}
    (h : ∀ segment ∈ name.splitOn '.', isIdentifier segment = true) {c : Char} (hc : c ∈ name) :
    c = '.' ∨ continuesIdentifier c = true := by
  have hname : ['.'].intercalate (name.splitOn '.') = name := List.intercalate_splitOn '.'
  rw [← hname] at hc
  rcases Text.mem_intercalate hc with hdot | ⟨segment, hs, hc⟩
  · exact .inl (by simpa using hdot)
  · exact .inr (continuesIdentifier_of_mem (h segment hs) hc)

theorem eq_dot_or_continues_of_mem {name : Text} (h : isDottedName name = true) {c : Char}
    (hc : c ∈ name) : c = '.' ∨ continuesIdentifier c = true := by
  simp only [isDottedName, List.all_eq_true, Bool.and_eq_true] at h
  exact eq_dot_or_continues_of_segments (fun segment hs => (h segment hs).1) hc

theorem not_mem_of_isDottedName {name : Text} (h : isDottedName name = true) {c : Char}
    (hdot : c ≠ '.') (hc : continuesIdentifier c = false) : c ∉ name := by
  intro hm
  rcases eq_dot_or_continues_of_mem h hm with heq | hcont
  · exact hdot heq
  · simp [hc] at hcont

end CSharp

end ContractProxy
