import ContractProxy.Batch.Generator
import Mathlib.Data.List.Forall2
import Mathlib.Data.List.Range

/-!
Results by their position in a batch. The successes of a batch and its failures stand in the order
of the batch, and every position holds one of the two.
-/

set_option autoImplicit false

namespace ContractProxy

variable {α β γ : Type}

def positions (part? : α → Option β) (items : List α) : List Nat :=
  (items.zipIdx.filter fun entry => (part? entry.1).isSome).map Prod.snd

theorem mem_positions {part? : α → Option β} {items : List α} {i : Nat} :
    i ∈ positions part? items ↔
      ∃ item value, items[i]? = some item ∧ part? item = some value := by
  simp only [positions, List.mem_map, List.mem_filter, Option.isSome_iff_exists]
  constructor
  · rintro ⟨⟨item, k⟩, ⟨hm, value, hvalue⟩, rfl⟩
    exact ⟨item, value, List.mk_mem_zipIdx_iff_getElem?.mp hm, hvalue⟩
  · rintro ⟨item, value, hitem, hvalue⟩
    exact ⟨(item, i), ⟨List.mk_mem_zipIdx_iff_getElem?.mpr hitem, value, hvalue⟩, rfl⟩

theorem pairwise_positions (part? : α → Option β) (items : List α) :
    (positions part? items).Pairwise (· < ·) := by
  have hsub : (positions part? items).Sublist (items.zipIdx.map Prod.snd) :=
    List.filter_sublist.map Prod.snd
  refine List.Pairwise.sublist hsub ?_
  rw [List.zipIdx_map_snd]
  exact List.pairwise_lt_range'

theorem forall₂_positions (part? : α → Option β) (items : List α) :
    List.Forall₂ (fun i value => ∃ item, items[i]? = some item ∧ part? item = some value)
      (positions part? items) (items.filterMap part?) := by
  have hentries : ∀ entries : List (α × Nat),
      List.Forall₂ (fun i value => ∃ item, (item, i) ∈ entries ∧ part? item = some value)
        ((entries.filter fun entry => (part? entry.1).isSome).map Prod.snd)
        ((entries.map Prod.fst).filterMap part?) := by
    intro entries
    induction entries with
    | nil => exact .nil
    | cons entry rest ih =>
      have hrest : List.Forall₂ (fun i value => ∃ item, (item, i) ∈ entry :: rest ∧
          part? item = some value) _ _ := ih.imp fun i value h => by
        obtain ⟨item, hm, hvalue⟩ := h
        exact ⟨item, List.mem_cons_of_mem entry hm, hvalue⟩
      rw [List.filter_cons, List.map_cons, List.filterMap_cons]
      cases hpart : part? entry.1 with
      | none => exact hrest
      | some value => exact .cons ⟨entry.1, List.mem_cons_self, hpart⟩ hrest
  have h := hentries items.zipIdx
  rw [List.zipIdx_map_fst] at h
  refine h.imp ?_
  rintro i value ⟨item, hm, hvalue⟩
  exact ⟨item, List.mk_mem_zipIdx_iff_getElem?.mp hm, hvalue⟩

theorem perm_positions {part? : α → Option β} {other? : α → Option γ}
    (hone : ∀ item, (other? item).isSome = !(part? item).isSome) (items : List α) :
    (positions part? items ++ positions other? items).Perm (List.range items.length) := by
  rw [positions, positions, ← List.map_append, List.range_eq_range',
    ← List.zipIdx_map_snd 0 items]
  refine List.Perm.map Prod.snd ?_
  simp only [hone]
  exact List.filter_append_perm _ _

namespace Generator

def success? : Text × Except GenerateFault α → Option α
  | (_, .ok value) => some value
  | (_, .error _) => none

def failure? : Text × Except GenerateFault α → Option (Text × GenerateFault)
  | (contract, .error fault) => some (contract, fault)
  | (_, .ok _) => none

theorem successes_eq (results : List (Text × Except GenerateFault α)) :
    successes results = results.filterMap success? := by
  refine List.filterMap_congr ?_
  rintro ⟨contract, fault | value⟩ _ <;> rfl

theorem failures_eq (results : List (Text × Except GenerateFault α)) :
    failures results = results.filterMap failure? := by
  refine List.filterMap_congr ?_
  rintro ⟨contract, fault | value⟩ _ <;> rfl

theorem success?_eq_some_iff {result : Text × Except GenerateFault α} {value : α} :
    success? result = some value ↔ ∃ contract, result = (contract, .ok value) := by
  obtain ⟨contract, fault | found⟩ := result <;> simp [success?]

theorem failure?_eq_some_iff {result : Text × Except GenerateFault α} {contract : Text}
    {fault : GenerateFault} :
    failure? result = some (contract, fault) ↔ result = (contract, .error fault) := by
  obtain ⟨name, found | value⟩ := result <;> simp [failure?]

theorem isSome_failure? (result : Text × Except GenerateFault α) :
    (failure? result).isSome = !(success? result).isSome := by
  obtain ⟨name, found | value⟩ := result <;> rfl

theorem length_successes_add_failures (results : List (Text × Except GenerateFault α)) :
    (successes results).length + (failures results).length = results.length := by
  have h := (perm_positions isSome_failure? results).length_eq
  rw [List.length_append, (forall₂_positions success? results).length_eq,
    (forall₂_positions failure? results).length_eq, List.length_range] at h
  rw [successes_eq, failures_eq, h]

end Generator

end ContractProxy
