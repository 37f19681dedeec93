import ContractProxy.TypeRef.Basic
import Mathlib.Data.List.Induction

/-!
Array suffixes of a name, read from the right. What is taken off is a row of suffixes, and the
base that remains does not end in a bracket.
-/

set_option autoImplicit false

namespace ContractProxy.TypeRef

def suffixes (ranks : List Nat) : Text :=
  ranks.flatMap arraySuffix

theorem suffixes_nil : suffixes [] = [] := rfl

theorem suffixes_cons (rank : Nat) (ranks : List Nat) :
    suffixes (rank :: ranks) = arraySuffix rank ++ suffixes ranks := rfl

def openSuffix (commas : Nat) : Text :=
  List.replicate commas ',' ++ "]"

theorem arraySuffix_succ (commas : Nat) :
    arraySuffix (commas + 1) = '[' :: openSuffix commas := by
  simp [arraySuffix, openSuffix]

theorem openSuffix_succ (commas : Nat) : openSuffix (commas + 1) = ',' :: openSuffix commas := rfl

theorem mem_arraySuffix {rank : Nat} {c : Char} (h : c ∈ arraySuffix rank) :
    c = '[' ∨ c = ',' ∨ c = ']' := by
  simp only [arraySuffix, List.cons_append, List.mem_cons, List.mem_append,
    List.mem_replicate] at h
  rcases h with h | ⟨_, h⟩ | h
  · exact .inl h
  · exact .inr (.inl h)
  · exact .inr (.inr (by simpa using h))

theorem mem_suffixes {ranks : List Nat} {c : Char} (h : c ∈ suffixes ranks) :
    c = '[' ∨ c = ',' ∨ c = ']' := by
  obtain ⟨rank, _, hc⟩ := List.mem_flatMap.mp h
  exact mem_arraySuffix hc

theorem getLast?_arraySuffix (rank : Nat) : (arraySuffix rank).getLast? = some ']' := by
  have h : arraySuffix rank = ('[' :: List.replicate (rank - 1) ',') ++ [']'] := rfl
  rw [h, List.getLast?_concat]

theorem getLast?_suffixes {ranks : List Nat} (h : ranks ≠ []) :
    (suffixes ranks).getLast? = some ']' := by
  induction ranks with
  | nil => exact absurd rfl h
  | cons rank rest ih =>
    rw [suffixes_cons, List.getLast?_append, getLast?_arraySuffix]
    cases rest with
    | nil => simp [suffixes_nil]
    | cons next rest => simp [ih (by simp)]

def pending : Option Nat → Text
  | none => []
  | some commas => openSuffix commas

theorem append_suffixes_of_peel {state : Option Nat} {ranks found : List Nat} {text base : Text}
    (h : peelSuffixes state ranks text = some (base, found)) :
    text.reverse ++ pending state ++ suffixes ranks = base ++ suffixes found ∧
      base.getLast? ≠ some ']' := by
  fun_induction peelSuffixes state ranks text with
  | case1 ranks rest ih =>
    obtain ⟨htext, hlast⟩ := ih h
    refine ⟨?_, hlast⟩
    rw [← htext]
    simp [pending, openSuffix]
  | case2 ranks text hne =>
    simp only [Option.some.injEq, Prod.mk.injEq] at h
    obtain ⟨rfl, rfl⟩ := h
    refine ⟨by simp [pending], ?_⟩
    intro hlast
    rw [List.getLast?_reverse] at hlast
    obtain ⟨rest, hrest⟩ := List.head?_eq_some_iff.mp hlast
    exact hne rest hrest
  | case3 commas ranks rest ih =>
    obtain ⟨htext, hlast⟩ := ih h
    refine ⟨?_, hlast⟩
    rw [← htext]
    simp [pending, openSuffix_succ]
  | case4 commas ranks rest ih =>
    obtain ⟨htext, hlast⟩ := ih h
    refine ⟨?_, hlast⟩
    rw [← htext]
    simp [pending, suffixes_cons, arraySuffix_succ]
  | case5 => simp at h

theorem name_eq_of_arrayParts {type : TypeRef} {base : Text} {ranks : List Nat}
    (h : type.arrayParts = some (base, ranks)) :
    type.name = base ++ suffixes ranks ∧ base.getLast? ≠ some ']' := by
  obtain ⟨htext, hlast⟩ := append_suffixes_of_peel h
  refine ⟨?_, hlast⟩
  rw [← htext]
  simp [pending, suffixes_nil]

theorem getLast?_name_eq_bracket_iff {type : TypeRef} {base : Text} {ranks : List Nat}
    (h : type.arrayParts = some (base, ranks)) :
    type.name.getLast? = some ']' ↔ ranks ≠ [] := by
  obtain ⟨hname, hlast⟩ := name_eq_of_arrayParts h
  rw [hname]
  constructor
  · intro hb hnil
    subst hnil
    rw [suffixes_nil, List.append_nil] at hb
    exact hlast hb
  · intro hne
    rw [List.getLast?_append, getLast?_suffixes hne]
    rfl

theorem suffixes_append (ranks others : List Nat) :
    suffixes (ranks ++ others) = suffixes ranks ++ suffixes others :=
  List.flatMap_append

theorem peelSuffixes_close (ranks : List Nat) (text : Text) :
    peelSuffixes none ranks (']' :: text) = peelSuffixes (some 0) ranks text := rfl

theorem peelSuffixes_comma (counted : Nat) (ranks : List Nat) (text : Text) :
    peelSuffixes (some counted) ranks (',' :: text) = peelSuffixes (some (counted + 1)) ranks text :=
  rfl

theorem peelSuffixes_commas (commas counted : Nat) (ranks : List Nat) (text : Text) :
    peelSuffixes (some counted) ranks (List.replicate commas ',' ++ '[' :: text) =
      peelSuffixes none ((counted + commas + 1) :: ranks) text := by
  induction commas generalizing counted with
  | zero => rfl
  | succ commas ih =>
    rw [List.replicate_succ, List.cons_append, peelSuffixes_comma, ih, Nat.add_assoc counted 1,
      Nat.add_comm 1 commas]

theorem peelSuffixes_arraySuffix {rank : Nat} (h : 0 < rank) (ranks : List Nat) (front : Text) :
    peelSuffixes none ranks (front ++ arraySuffix rank).reverse =
      peelSuffixes none (rank :: ranks) front.reverse := by
  have hreverse : (front ++ arraySuffix rank).reverse =
      ']' :: (List.replicate (rank - 1) ',' ++ '[' :: front.reverse) := by
    simp [arraySuffix]
  rw [hreverse, peelSuffixes_close, peelSuffixes_commas, Nat.zero_add, Nat.sub_add_cancel h]

theorem peelSuffixes_suffixes {found : List Nat} (h : ∀ rank ∈ found, 0 < rank)
    (ranks : List Nat) (front : Text) :
    peelSuffixes none ranks (front ++ suffixes found).reverse =
      peelSuffixes none (found ++ ranks) front.reverse := by
  induction found using List.reverseRecOn generalizing ranks with
  | nil => simp [suffixes_nil]
  | append_singleton found rank ih =>
    rw [List.forall_mem_append] at h
    rw [suffixes_append, suffixes_cons, suffixes_nil, List.append_nil, ← List.append_assoc,
      peelSuffixes_arraySuffix (h.2 rank (by simp)), ih h.1]
    simp

theorem peelSuffixes_base {base : Text} (h : base.getLast? ≠ some ']') (ranks : List Nat) :
    peelSuffixes none ranks base.reverse = some (base, ranks) := by
  rw [← List.head?_reverse] at h
  rw [peelSuffixes]
  · rw [List.reverse_reverse]
  · intro rest hrest
    rw [hrest] at h
    exact h rfl

theorem pos_of_peel {state : Option Nat} {ranks found : List Nat} {text base : Text}
    (h : peelSuffixes state ranks text = some (base, found)) (hpos : ∀ rank ∈ ranks, 0 < rank) :
    ∀ rank ∈ found, 0 < rank := by
  fun_induction peelSuffixes state ranks text with
  | case1 ranks rest ih => exact ih h hpos
  | case2 =>
    cases h
    exact hpos
  | case3 commas ranks rest ih => exact ih h hpos
  | case4 commas ranks rest ih =>
    exact ih h (List.forall_mem_cons.mpr ⟨Nat.succ_pos commas, hpos⟩)
  | case5 => cases h

theorem peelSuffixes_eq_some_iff {name base : Text} {ranks : List Nat} :
    peelSuffixes none [] name.reverse = some (base, ranks) ↔
      name = base ++ suffixes ranks ∧ base.getLast? ≠ some ']' ∧ ∀ rank ∈ ranks, 0 < rank := by
  constructor
  · intro h
    have hparts : (named name).arrayParts = some (base, ranks) := h
    obtain ⟨hname, hlast⟩ := name_eq_of_arrayParts hparts
    exact ⟨hname, hlast, pos_of_peel h (by simp)⟩
  · intro h
    obtain ⟨rfl, hlast, hpos⟩ := h
    rw [peelSuffixes_suffixes hpos, peelSuffixes_base hlast, List.append_nil]

/-- Behind some front there are array suffixes only, and the front ends in a bracket that closes
none. -/
def MalformedBrackets (name : Text) : Prop :=
  ∃ front ranks, name = front ++ suffixes ranks ∧ front.getLast? = some ']' ∧
    (∀ rank ∈ ranks, 0 < rank) ∧ ∀ inner rank, front ≠ inner ++ arraySuffix rank

theorem replicate_append_ne {text : Text} (hcomma : ∀ rest, text ≠ ',' :: rest)
    (hbracket : ∀ rest, text ≠ '[' :: rest) (commas others : Nat) (inner : Text) :
    List.replicate commas ',' ++ text ≠ List.replicate others ',' ++ '[' :: inner := by
  intro heq
  induction commas generalizing others with
  | zero =>
    cases others with
    | zero => exact hbracket inner heq
    | succ others => exact hcomma _ heq
  | succ commas ih =>
    cases others with
    | zero => cases heq
    | succ others => exact ih others (List.cons.inj heq).2

theorem malformed_of_peel {state : Option Nat} {ranks : List Nat} {text : Text}
    (h : peelSuffixes state ranks text = none) (hpos : ∀ rank ∈ ranks, 0 < rank) :
    MalformedBrackets (text.reverse ++ pending state ++ suffixes ranks) := by
  fun_induction peelSuffixes state ranks text with
  | case1 ranks rest ih =>
    have hrest := ih h hpos
    rwa [List.reverse_cons, List.append_assoc rest.reverse]
  | case2 => cases h
  | case3 commas ranks rest ih =>
    have hrest := ih h hpos
    rwa [List.reverse_cons, List.append_assoc rest.reverse]
  | case4 commas ranks rest ih =>
    have hrest := ih h (List.forall_mem_cons.mpr ⟨Nat.succ_pos commas, hpos⟩)
    rw [pending, List.append_nil, suffixes_cons, arraySuffix_succ, ← List.append_assoc] at hrest
    rwa [List.reverse_cons, List.append_assoc rest.reverse]
  | case5 text commas ranks hcomma hbracket =>
    refine ⟨text.reverse ++ openSuffix commas, ranks, rfl, ?_, hpos, ?_⟩
    · rw [openSuffix, ← List.append_assoc]
      exact List.getLast?_concat
    · intro inner rank heq
      have hreverse := congrArg List.reverse heq
      simp only [openSuffix, arraySuffix, List.reverse_append, List.reverse_cons,
        List.reverse_replicate, List.reverse_reverse, List.append_assoc] at hreverse
      exact replicate_append_ne hcomma hbracket commas (rank - 1) inner.reverse
        (List.cons.inj hreverse).2

theorem exists_suffix_of_peel {counted : Nat} {ranks : List Nat} {text : Text}
    (h : peelSuffixes (some counted) ranks text ≠ none) :
    ∃ commas inner, text = List.replicate commas ',' ++ '[' :: inner := by
  induction text generalizing counted with
  | nil => exact absurd rfl h
  | cons c rest ih =>
    by_cases hcomma : c = ','
    · subst hcomma
      obtain ⟨commas, inner, rfl⟩ := ih h
      exact ⟨commas + 1, inner, rfl⟩
    · by_cases hbracket : c = '['
      · exact ⟨0, rest, by rw [hbracket]; rfl⟩
      · simp [peelSuffixes, hcomma, hbracket] at h

theorem peelSuffixes_eq_none_iff {name : Text} :
    peelSuffixes none [] name.reverse = none ↔ MalformedBrackets name := by
  constructor
  · intro h
    have hmalformed := malformed_of_peel h (by simp)
    rwa [pending, suffixes_nil, List.append_nil, List.append_nil, List.reverse_reverse]
      at hmalformed
  · intro h
    obtain ⟨front, ranks, rfl, hlast, hpos, hnone⟩ := h
    obtain ⟨rest, rfl⟩ := List.getLast?_eq_some_iff.mp hlast
    rw [peelSuffixes_suffixes hpos, List.reverse_append]
    by_contra hpeel
    obtain ⟨commas, inner, hrest⟩ :
        ∃ commas inner, rest.reverse = List.replicate commas ',' ++ '[' :: inner :=
      exists_suffix_of_peel hpeel
    refine hnone inner.reverse (commas + 1) ?_
    have hreverse := congrArg List.reverse hrest
    rw [List.reverse_reverse, List.reverse_append, List.reverse_replicate, List.reverse_cons]
      at hreverse
    rw [hreverse]
    simp [arraySuffix]

end ContractProxy.TypeRef
