import ContractProxy.Proofs.CSharp.Name
import ContractProxy.Proofs.Text.Field

/-!
The words of a line of source text, as a reader of the text finds them: the longest runs of letters,
numerals, underscores, dots and at signs. A dotted name is one word, and so is an escaped one.
-/

set_option autoImplicit false

namespace ContractProxy.CSharp

def separatesWords (c : Char) : Bool :=
  !(c == '.' || c == '@' || continuesIdentifier c)

def words (line : Text) : List Text :=
  Text.fields separatesWords line

/-- The word that stands behind the first occurrence of another one. -/
def wordAfter (mark line : Text) : Option Text :=
  ((words line).dropWhile (· != mark))[1]?

theorem words_of_forall {word : Text} (hne : word ≠ [])
    (h : ∀ c ∈ word, c = '.' ∨ continuesIdentifier c = true) : words word = [word] := by
  refine Text.fields_of_forall hne ?_
  intro c hc
  rcases h c hc with rfl | hcont
  · rfl
  · simp [separatesWords, hcont]

theorem words_of_isIdentifier {name : Text} (h : isIdentifier name = true) :
    words name = [name] := by
  have hne : name ≠ [] := by
    intro hnil
    rw [hnil] at h
    cases h
  exact words_of_forall hne fun c hc => .inr (continuesIdentifier_of_mem h hc)

theorem words_of_segments {name : Text}
    (h : ∀ segment ∈ name.splitOn '.', isIdentifier segment = true) : words name = [name] := by
  have hne : name ≠ [] := by
    intro hnil
    rw [hnil] at h
    cases h [] List.mem_cons_self
  exact words_of_forall hne fun c hc => eq_dot_or_continues_of_segments h hc

theorem wordAfter_of_words {line mark word : Text} {before after : List Text}
    (h : words line = before ++ mark :: word :: after) (hm : mark ∉ before) :
    wordAfter mark line = some word := by
  have hbefore : ∀ other ∈ before, (other != mark) = true := by
    intro other ho
    have hne : other ≠ mark := fun heq => hm (heq ▸ ho)
    simpa using hne
  rw [wordAfter, h, List.dropWhile_append_of_pos hbefore]
  simp

end ContractProxy.CSharp
