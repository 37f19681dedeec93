import ContractProxy.Comparison
import ContractProxy.Proofs.Text.Lines
import Mathlib.Data.Set.Basic
import Mathlib.Order.Bounds.Defs

/-!
When two texts count as equal, and what is reported of two that do not. Their lines have to agree
but for the one that names the version; the first two that do not agree are reported, and the
numbers of lines only if there are no such lines.
-/

set_option autoImplicit false

namespace ContractProxy

namespace Difference

theorem firstLine_eq_none_iff {number : Nat} {expected actual : List Text} :
    firstLine number expected actual = none ↔
      ∀ i line other, expected[i]? = some line → actual[i]? = some other →
        number + i ≠ versionLine → line = other := by
  induction expected generalizing number actual with
  | nil => simp [firstLine]
  | cons line rest ih =>
    cases actual with
    | nil => simp [firstLine]
    | cons other others =>
      have hdiffers : (number != versionLine && !(line == other)) = true ↔
          number ≠ versionLine ∧ line ≠ other := by simp
      rw [firstLine]
      split_ifs with hfirst
      · constructor
        · intro h
          cases h
        · intro h
          obtain ⟨hnumber, hline⟩ := hdiffers.mp hfirst
          exact absurd (h 0 line other rfl rfl hnumber) hline
      · rw [ih]
        constructor
        · intro h i found existing hfound hexisting hnumber
          cases i with
          | zero =>
            cases hfound
            cases hexisting
            by_contra hline
            exact hfirst (hdiffers.mpr ⟨hnumber, hline⟩)
          | succ i => exact h i found existing hfound hexisting (by omega)
        · intro h i found existing hfound hexisting hnumber
          exact h (i + 1) found existing hfound hexisting (by omega)

theorem ofLines_eq_none_iff {expected actual : List Text} :
    ofLines expected actual = none ↔
      expected.length = actual.length ∧
        ∀ i, i + 1 ≠ versionLine → expected[i]? = actual[i]? := by
  unfold ofLines
  cases hfirst : firstLine 1 expected actual with
  | some difference =>
    simp only [reduceCtorEq, false_iff, not_and]
    intro hlength hlines
    have hnone : firstLine 1 expected actual = none := by
      rw [firstLine_eq_none_iff]
      intro i line other hline hother hnumber
      have hsame := hlines i (by omega)
      rw [hline, hother] at hsame
      exact Option.some.inj hsame
    rw [hnone] at hfirst
    cases hfirst
  | none =>
    rw [firstLine_eq_none_iff] at hfirst
    simp only [ite_eq_left_iff, reduceCtorEq, imp_false, not_not, beq_iff_eq]
    refine ⟨fun hlength => ⟨hlength, fun i hnumber => ?_⟩, fun h => h.1⟩
    by_cases hi : i < expected.length
    · have hline := List.getElem?_eq_getElem hi
      have hother := List.getElem?_eq_getElem (hlength ▸ hi : i < actual.length)
      rw [hline, hother, hfirst i _ _ hline hother (by omega)]
    · rw [List.getElem?_eq_none (by omega), List.getElem?_eq_none (by omega)]

theorem ofLines_set (lines : List Text) (line other : Text) :
    ofLines (lines.set (versionLine - 1) line) (lines.set (versionLine - 1) other) = none := by
  rw [ofLines_eq_none_iff]
  refine ⟨by simp, fun i hnumber => ?_⟩
  have hi : versionLine - 1 ≠ i := by
    rintro rfl
    exact hnumber rfl
  rw [List.getElem?_set_ne hi, List.getElem?_set_ne hi]

theorem firstLine_eq_some_iff {number : Nat} {expected actual : List Text}
    {difference : Difference} :
    firstLine number expected actual = some difference ↔
      ∃ i line other, difference = .line (number + i) line other ∧ expected[i]? = some line ∧
        actual[i]? = some other ∧ number + i ≠ versionLine ∧ line ≠ other ∧
        ∀ j < i, ∀ found existing, expected[j]? = some found → actual[j]? = some existing →
          number + j ≠ versionLine → found = existing := by
  induction expected generalizing number actual with
  | nil => simp [firstLine]
  | cons line rest ih =>
    cases actual with
    | nil => simp [firstLine]
    | cons other others =>
      rw [firstLine]
      by_cases hfirst : number ≠ versionLine ∧ line ≠ other
      · rw [if_pos (by simpa using hfirst)]
        constructor
        · intro h
          cases h
          exact ⟨0, line, other, rfl, rfl, rfl, hfirst.1, hfirst.2, by simp⟩
        · intro h
          obtain ⟨i, found, existing, rfl, hfound, hexisting, _, _, hbefore⟩ := h
          cases i with
          | zero =>
            cases hfound
            cases hexisting
            rfl
          | succ i =>
            exact absurd (hbefore 0 (by omega) line other rfl rfl hfirst.1) hfirst.2
      · rw [if_neg (by simpa using hfirst), ih]
        constructor
        · intro h
          obtain ⟨i, found, existing, rfl, hfound, hexisting, hnumber, hne, hbefore⟩ := h
          refine ⟨i + 1, found, existing, by congr 1; omega, hfound, hexisting, by omega, hne, ?_⟩
          intro j hj earlier previous hearlier hprevious hversion
          cases j with
          | zero =>
            cases hearlier
            cases hprevious
            by_contra hline
            exact hfirst ⟨hversion, hline⟩
          | succ j => exact hbefore j (by omega) _ _ hearlier hprevious (by omega)
        · intro h
          obtain ⟨i, found, existing, rfl, hfound, hexisting, hnumber, hne, hbefore⟩ := h
          cases i with
          | zero =>
            cases hfound
            cases hexisting
            exact absurd ⟨hnumber, hne⟩ hfirst
          | succ i =>
            refine ⟨i, found, existing, by congr 1; omega, hfound, hexisting, by omega, hne, ?_⟩
            intro j hj earlier previous hearlier hprevious hversion
            exact hbefore (j + 1) (by omega) _ _ hearlier hprevious (by omega)

/-- The line with a number; lines are counted from one. -/
def lineAt (all : List Text) : Nat → Option Text
  | 0 => none
  | i + 1 => all[i]?

/-- The numbers of the lines that two files both have and on which they differ, apart from the line
that names the version. -/
def differing (expected actual : List Text) : Set Nat :=
  { number | number ≠ versionLine ∧ ∃ line other, lineAt expected number = some line ∧
    lineAt actual number = some other ∧ line ≠ other }

section

variable {expected actual : List Text}

theorem firstLine_eq_none_iff_differing :
    firstLine 1 expected actual = none ↔ differing expected actual = ∅ := by
  rw [firstLine_eq_none_iff, Set.eq_empty_iff_forall_notMem]
  constructor
  · intro h number hdiffer
    obtain ⟨hnumber, line, other, hline, hother, hne⟩ := hdiffer
    cases number with
    | zero => cases hline
    | succ i => exact hne (h i line other hline hother (by omega))
  · intro h i line other hline hother hnumber
    by_contra hne
    exact h (i + 1) ⟨by omega, line, other, hline, hother, hne⟩

theorem firstLine_eq_some_iff_isLeast {number : Nat} {line other : Text} :
    firstLine 1 expected actual = some (.line number line other) ↔
      IsLeast (differing expected actual) number ∧ lineAt expected number = some line ∧
        lineAt actual number = some other := by
  rw [firstLine_eq_some_iff]
  constructor
  · intro h
    obtain ⟨i, _, _, hfound, hline, hother, hnumber, hne, hbefore⟩ := h
    cases hfound
    rw [Nat.add_comm 1 i] at hnumber ⊢
    refine ⟨⟨⟨hnumber, line, other, hline, hother, hne⟩, ?_⟩, hline, hother⟩
    intro number hm
    obtain ⟨hversion, earlier, previous, hearlier, hprevious, hdiffer⟩ := hm
    cases number with
    | zero => cases hearlier
    | succ j =>
      by_contra hlt
      exact hdiffer (hbefore j (by omega) _ _ hearlier hprevious (by omega))
  · intro h
    obtain ⟨⟨⟨hnumber, found, existing, hfound, hexisting, hne⟩, hleast⟩, hline, hother⟩ := h
    cases number with
    | zero => cases hline
    | succ i =>
      rw [hline, Option.some.injEq] at hfound
      rw [hother, Option.some.injEq] at hexisting
      subst hfound hexisting
      refine ⟨i, line, other, by rw [Nat.add_comm], hline, hother, by omega, hne, ?_⟩
      intro j hj earlier previous hearlier hprevious hversion
      by_contra hdiffer
      have hle : i + 1 ≤ j + 1 :=
        hleast ⟨by omega, earlier, previous, hearlier, hprevious, hdiffer⟩
      omega

theorem ofLines_eq_line_iff {number : Nat} {line other : Text} :
    ofLines expected actual = some (.line number line other) ↔
      IsLeast (differing expected actual) number ∧ lineAt expected number = some line ∧
        lineAt actual number = some other := by
  rw [← firstLine_eq_some_iff_isLeast, ofLines]
  cases firstLine 1 expected actual with
  | some difference => rfl
  | none =>
    simp only [reduceCtorEq, iff_false]
    split_ifs <;> simp

theorem ofLines_eq_length_iff {count other : Nat} :
    ofLines expected actual = some (.length count other) ↔
      differing expected actual = ∅ ∧ count = expected.length ∧ other = actual.length ∧
        count ≠ other := by
  rw [← firstLine_eq_none_iff_differing, ofLines]
  cases hfirst : firstLine 1 expected actual with
  | some difference =>
    obtain ⟨i, _, _, rfl, _⟩ := firstLine_eq_some_iff.mp hfirst
    simp
  | none =>
    simp only [true_and, beq_iff_eq]
    split_ifs with hlength
    · simp only [false_iff, not_and, not_not]
      intro hcount hother
      rw [hcount, hother, hlength]
    · simp only [Option.some.injEq, length.injEq]
      constructor
      · intro h
        obtain ⟨rfl, rfl⟩ := h
        exact ⟨rfl, rfl, hlength⟩
      · intro h
        exact ⟨h.1.symm, h.2.1.symm⟩

theorem forall_lineAt_iff :
    (∀ i, i + 1 ≠ versionLine → expected[i]? = actual[i]?) ↔
      ∀ number ≠ versionLine, lineAt expected number = lineAt actual number := by
  constructor
  · intro h number hnumber
    cases number with
    | zero => rfl
    | succ i => exact h i hnumber
  · intro h i hnumber
    exact h (i + 1) hnumber

end

def swapped : Difference → Difference
  | .line number expected actual => .line number actual expected
  | .length expected actual => .length actual expected

theorem firstLine_swap (number : Nat) (expected actual : List Text) :
    firstLine number actual expected = (firstLine number expected actual).map swapped := by
  induction expected generalizing number actual with
  | nil => cases actual <;> rfl
  | cons line rest ih =>
    cases actual with
    | nil => rfl
    | cons other others =>
      rw [firstLine, firstLine, BEq.comm (a := other), ih]
      split_ifs <;> rfl

theorem ofLines_swap (expected actual : List Text) :
    ofLines actual expected = (ofLines expected actual).map swapped := by
  rw [ofLines, ofLines, firstLine_swap]
  cases firstLine 1 expected actual with
  | some difference => rfl
  | none =>
    simp only [Option.map_none, BEq.comm (a := actual.length)]
    split_ifs <;> rfl

theorem equivalence_ofLines : Equivalence fun expected actual => ofLines expected actual = none where
  refl all := ofLines_eq_none_iff.mpr ⟨rfl, fun _ _ => rfl⟩
  symm h := by
    rw [ofLines_swap, h]
    rfl
  trans h h' := by
    rw [ofLines_eq_none_iff] at h h' ⊢
    exact ⟨h.1.trans h'.1, fun i hi => (h.2 i hi).trans (h'.2 i hi)⟩

/-- What a comparison reports of two texts, told by their lines: nothing exactly if there are as
many and all agree but the one that names the version, a line exactly if it is the first that does
not, and the numbers of lines exactly if these are all that differs. To be without a difference is
an equivalence, the report does not depend on which text comes first, and neither carriage returns
before all line feeds nor the ending of a last line that is not empty make any difference. -/
theorem between_reports (expected actual : Text) :
    Text.Lines expected (Text.lines expected) ∧ Text.Lines actual (Text.lines actual) ∧
    (between expected actual = none ↔
      (Text.lines expected).length = (Text.lines actual).length ∧
        ∀ number ≠ versionLine,
          lineAt (Text.lines expected) number = lineAt (Text.lines actual) number) ∧
    (∀ number line other, between expected actual = some (.line number line other) ↔
      IsLeast (differing (Text.lines expected) (Text.lines actual)) number ∧
        lineAt (Text.lines expected) number = some line ∧
        lineAt (Text.lines actual) number = some other) ∧
    (∀ count other, between expected actual = some (.length count other) ↔
      differing (Text.lines expected) (Text.lines actual) = ∅ ∧
        count = (Text.lines expected).length ∧ other = (Text.lines actual).length ∧
        count ≠ other) ∧
    (Equivalence fun t s => between t s = none) ∧
    between actual expected = (between expected actual).map swapped ∧
    ('\r' ∉ expected →
      between (Text.replaceAll "\n" "\r\n" expected) actual = between expected actual ∧
      between actual (Text.replaceAll "\n" "\r\n" expected) = between actual expected) ∧
    ('\r' ∉ expected → (Text.lines (expected ++ "\n")).getLast? ≠ some [] →
      between (expected ++ "\n") actual = between expected actual ∧
      between actual (expected ++ "\n") = between actual expected) := by
  refine ⟨Text.lines_spec expected, Text.lines_spec actual, ?_, ?_, ?_, ?_, ?_, ?_, ?_⟩
  · rw [between, ofLines_eq_none_iff, forall_lineAt_iff]
  · intro number line other
    exact ofLines_eq_line_iff
  · intro count other
    exact ofLines_eq_length_iff
  · exact InvImage.equivalence _ Text.lines equivalence_ofLines
  · exact ofLines_swap (Text.lines expected) (Text.lines actual)
  · intro hreturn
    simp only [between, Text.lines_replaceAll hreturn, and_self]
  · intro hreturn hlast
    have hlines : Text.lines (expected ++ "\n") = Text.lines expected :=
      Text.lines_concat_feed hreturn hlast
    simp only [between, hlines, and_self]

def notice : Text := "made by a tool\n\nkeep out"

theorem between_reports_notice :
    '\r' ∉ notice ∧ (Text.lines (notice ++ "\n")).getLast? ≠ some [] ∧
      between (Text.replaceAll "\n" "\r\n" notice) "made by" = between notice "made by" ∧
      between "made by" (notice ++ "\n") = between "made by" notice := by
  have hreturn : '\r' ∉ notice := by decide
  have hlast : (Text.lines (notice ++ "\n")).getLast? ≠ some [] := by decide
  obtain ⟨-, -, -, -, -, -, -, hreturned, hended⟩ := between_reports notice "made by"
  exact ⟨hreturn, hlast, (hreturned hreturn).1, (hended hreturn hlast).2⟩

end Difference

end ContractProxy
