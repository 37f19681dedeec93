import ContractProxy.Text.Order

/-!
Values under keys, in ascending order of the keys. Main statements: putting a value keeps the order;
a key has afterwards the value that was put there, and every other key the value it had; in
ascending order there is one list for the same values.
-/

set_option autoImplicit false

namespace ContractProxy

theorem lookup_cons {κ α : Type} [BEq κ] [LawfulBEq κ] [DecidableEq κ] (other key : κ) (value : α)
    (rest : List (κ × α)) :
    ((key, value) :: rest).lookup other =
      if other = key then some value else rest.lookup other := by
  by_cases h : other = key
  · simp [h]
  · rw [List.lookup_cons, beq_eq_false_iff_ne.mpr h, if_neg h]

abbrev Keyed (α : Type) := List (Text × α)

namespace Keyed

variable {α : Type}

def Ascending (entries : Keyed α) : Prop :=
  entries.Pairwise fun a b => Text.precedes a.1 b.1 = true

def put (key : Text) (value : α) : Keyed α → Keyed α
  | [] => [(key, value)]
  | (key', value') :: rest =>
    if key == key' then (key, value) :: rest
    else if Text.precedes key key' then (key, value) :: (key', value') :: rest
    else (key', value') :: put key value rest

theorem ascending_cons {key : Text} {value : α} {rest : Keyed α} :
    Ascending ((key, value) :: rest) ↔
      (∀ e ∈ rest, Text.precedes key e.1 = true) ∧ Ascending rest :=
  List.pairwise_cons

theorem forall_mem_put (p : Text → Prop) {key : Text} {value : α} {entries : Keyed α}
    (h : p key) (others : ∀ e ∈ entries, p e.1) : ∀ e ∈ put key value entries, p e.1 := by
  induction entries with
  | nil => simpa [put] using h
  | cons entry rest ih =>
    obtain ⟨key', value'⟩ := entry
    rw [List.forall_mem_cons] at others
    unfold put
    split
    · simpa [h] using others.2
    · split
      · simpa [h] using others
      · simpa [others.1] using ih others.2

theorem ascending_put (key : Text) (value : α) {entries : Keyed α} (h : Ascending entries) :
    Ascending (put key value entries) := by
  induction entries with
  | nil => simp [put, Ascending]
  | cons entry rest ih =>
    obtain ⟨key', value'⟩ := entry
    rw [ascending_cons] at h
    unfold put
    split
    · rename_i same
      rw [beq_iff_eq] at same
      exact ascending_cons.mpr (same ▸ h)
    · split
      · rename_i below
        refine ascending_cons.mpr ⟨?_, ascending_cons.mpr h⟩
        exact List.forall_mem_cons.mpr
          ⟨below, fun e he => Text.precedes_trans below (h.1 e he)⟩
      · rename_i different notBelow
        rw [beq_iff_eq] at different
        rw [Bool.not_eq_true] at notBelow
        have above := Text.precedes_total different notBelow
        exact ascending_cons.mpr
          ⟨forall_mem_put (Text.precedes key' · = true) above h.1, ih h.2⟩

theorem mem_of_lookup {key : Text} {value : α} {entries : Keyed α}
    (h : entries.lookup key = some value) : (key, value) ∈ entries := by
  obtain ⟨before, after, heq, _⟩ := List.lookup_eq_some_iff.mp h
  rw [heq]
  simp

theorem lookup_put (key : Text) (value : α) (other : Text) (entries : Keyed α) :
    (put key value entries).lookup other =
      if other = key then some value else entries.lookup other := by
  induction entries with
  | nil => simp [put, lookup_cons]
  | cons entry rest ih =>
    obtain ⟨key', value'⟩ := entry
    unfold put
    split
    · rename_i same
      rw [beq_iff_eq] at same
      by_cases h : other = key <;> simp [lookup_cons, h, ← same]
    · split
      · simp [lookup_cons]
      · by_cases h : other = key <;> simp_all [lookup_cons]

theorem lookup_eq_none_of_precedes {key : Text} {entries : Keyed α}
    (h : ∀ e ∈ entries, Text.precedes key e.1 = true) : entries.lookup key = none := by
  rw [List.lookup_eq_none_iff]
  intro e he
  have apart : key ≠ e.1 := fun same => by
    simpa [← same, Text.precedes_irrefl] using h e he
  simpa using apart

theorem precedes_eq_false_of_lookup {first key : Text} {value found : α} {rest : Keyed α}
    (ascending : Ascending ((first, value) :: rest))
    (h : ((first, value) :: rest).lookup key = some found) :
    Text.precedes key first = false := by
  rw [ascending_cons] at ascending
  refine Bool.eq_false_iff.mpr fun below => ?_
  have above : ∀ e ∈ (first, value) :: rest, Text.precedes key e.1 = true :=
    List.forall_mem_cons.mpr
      ⟨below, fun e he => Text.precedes_trans below (ascending.1 e he)⟩
  rw [lookup_eq_none_of_precedes above] at h
  contradiction

theorem eq_of_lookup {s t : Keyed α} (hs : Ascending s) (ht : Ascending t)
    (h : ∀ key, s.lookup key = t.lookup key) : s = t := by
  induction s generalizing t with
  | nil =>
    cases t with
    | nil => rfl
    | cons entry rest =>
      obtain ⟨key, value⟩ := entry
      simpa [lookup_cons] using h key
  | cons entry rest ih =>
    obtain ⟨key, value⟩ := entry
    cases t with
    | nil => simpa [lookup_cons] using h key
    | cons entry' rest' =>
      obtain ⟨key', value'⟩ := entry'
      have notAbove :=
        precedes_eq_false_of_lookup hs ((h key').trans List.lookup_cons_self)
      have notBelow :=
        precedes_eq_false_of_lookup ht ((h key).symm.trans List.lookup_cons_self)
      have atFirst : key = key' := Decidable.byContradiction fun different => by
        simp [Text.precedes_total different notBelow] at notAbove
      subst atFirst
      have same : value = value' := by simpa [lookup_cons] using h key
      subst same
      rw [ascending_cons] at hs ht
      rw [ih hs.2 ht.2 fun other => ?_]
      by_cases atKey : other = key
      · rw [atKey, lookup_eq_none_of_precedes hs.1, lookup_eq_none_of_precedes ht.1]
      · simpa [lookup_cons, atKey] using h other

end Keyed

end ContractProxy
