import Mathlib.Data.List.Forall2

/-!
Checks made one after the other stop at the first fault. A sequence of them succeeds exactly if
each does, and otherwise it fails as the first one that does not succeed.
-/

set_option autoImplicit false

namespace ContractProxy

variable {α β φ ψ : Type}

theorem bind_eq_ok_iff {check : Except φ α} {next : α → Except φ β} {value : β} :
    check >>= next = .ok value ↔ ∃ a, check = .ok a ∧ next a = .ok value := by
  cases check <;> simp [bind, Except.bind]

theorem then_eq_ok_iff {check : Except φ Unit} {next : Except φ β} {value : β} :
    (check >>= fun _ => next) = .ok value ↔ check = .ok () ∧ next = .ok value := by
  cases check <;> simp [bind, Except.bind]

theorem bind_eq_error_iff {check : Except φ α} {next : α → Except φ β} {fault : φ} :
    check >>= next = .error fault ↔
      check = .error fault ∨ ∃ a, check = .ok a ∧ next a = .error fault := by
  cases check <;> simp [bind, Except.bind]

theorem then_eq_error_iff {check : Except φ Unit} {next : Except φ β} {fault : φ} :
    (check >>= fun _ => next) = .error fault ↔
      check = .error fault ∨ check = .ok () ∧ next = .error fault := by
  cases check <;> simp [bind, Except.bind]

theorem mapError_eq_ok_iff {check : Except φ α} {rename : φ → ψ} {value : α} :
    check.mapError rename = .ok value ↔ check = .ok value := by
  cases check <;> simp [Except.mapError]

theorem mapError_eq_error_iff {check : Except φ α} {rename : φ → ψ} {fault : ψ} :
    check.mapError rename = .error fault ↔
      ∃ found, check = .error found ∧ rename found = fault := by
  cases check <;> simp [Except.mapError]

theorem exists_ok_iff {check : Except φ α} :
    (∃ value, check = .ok value) ↔ ∀ fault, check ≠ .error fault := by
  cases check <;> simp

theorem mapM_eq_ok_iff {check : α → Except φ β} {items : List α} {values : List β} :
    items.mapM check = .ok values ↔
      List.Forall₂ (fun item value => check item = .ok value) items values := by
  induction items generalizing values with
  | nil =>
    rw [List.mapM_nil, List.forall₂_nil_left_iff]
    exact ⟨fun h => (Except.ok.inj h).symm, fun h => congrArg Except.ok h.symm⟩
  | cons item rest ih =>
    rw [List.mapM_cons, bind_eq_ok_iff]
    constructor
    · intro h
      obtain ⟨value, hv, h⟩ := h
      obtain ⟨others, ho, h⟩ := bind_eq_ok_iff.mp h
      cases h
      exact .cons hv (ih.mp ho)
    · intro h
      cases h with
      | cons hv hrest =>
        exact ⟨_, hv, bind_eq_ok_iff.mpr ⟨_, ih.mpr hrest, rfl⟩⟩

theorem map_eq_map_of_forall₂ {γ : Type} {related : α → β → Prop} {f : α → γ} {g : β → γ}
    {items : List α} {values : List β} (h : List.Forall₂ related items values)
    (himage : ∀ item value, related item value → f item = g value) :
    items.map f = values.map g := by
  rw [← List.forall₂_eq_eq_eq, List.forall₂_map_left_iff, List.forall₂_map_right_iff]
  exact h.imp himage

theorem forall_mem_of_forall₂ {related : α → β → Prop} {fine : β → Prop} {items : List α}
    {values : List β} (h : List.Forall₂ related items values)
    (hfine : ∀ item ∈ items, ∀ value, related item value → fine value) :
    ∀ value ∈ values, fine value := by
  induction h with
  | nil => simp
  | cons hfirst _ ih =>
    rw [List.forall_mem_cons] at hfine
    rw [List.forall_mem_cons]
    exact ⟨hfine.1 _ hfirst, ih hfine.2⟩

theorem exists_mem_of_forall₂ {related : α → β → Prop} {items : List α} {values : List β}
    {value : β} (h : List.Forall₂ related items values) (hm : value ∈ values) :
    ∃ item ∈ items, related item value := by
  have hall : ∀ value ∈ values, ∃ item ∈ items, related item value :=
    forall_mem_of_forall₂ h fun item hitem value hrelated => ⟨item, hitem, hrelated⟩
  exact hall value hm

theorem split_of_forall₂ {related : α → β → Prop} {items : List α}
    {before after : List β} {value : β}
    (h : List.Forall₂ related items (before ++ value :: after)) :
    ∃ front item back, items = front ++ item :: back ∧ List.Forall₂ related front before ∧
      related item value := by
  induction before generalizing items with
  | nil =>
    cases h with
    | cons hfirst hrest => exact ⟨[], _, _, rfl, .nil, hfirst⟩
  | cons earlier before ih =>
    cases h with
    | cons hfirst hrest =>
      obtain ⟨front, item, back, rfl, hfront, hitem⟩ := ih hrest
      exact ⟨_ :: front, item, back, rfl, .cons hfirst hfront, hitem⟩

theorem mapM_eq_error_iff {check : α → Except φ β} {items : List α} {fault : φ} :
    items.mapM check = .error fault ↔
      ∃ before item after, items = before ++ item :: after ∧
        (∀ earlier ∈ before, ∃ value, check earlier = .ok value) ∧ check item = .error fault := by
  induction items with
  | nil =>
    rw [List.mapM_nil]
    constructor
    · intro h
      cases h
    · intro h
      obtain ⟨before, item, after, h, _⟩ := h
      simp at h
  | cons item rest ih =>
    rw [List.mapM_cons, bind_eq_error_iff]
    constructor
    · intro h
      rcases h with h | ⟨value, hv, h⟩
      · exact ⟨[], item, rest, rfl, by simp, h⟩
      · rcases bind_eq_error_iff.mp h with h | ⟨values, _, h⟩
        · obtain ⟨before, found, after, rfl, hb, hf⟩ := ih.mp h
          refine ⟨item :: before, found, after, rfl, ?_, hf⟩
          intro earlier hm
          rcases List.mem_cons.mp hm with rfl | hm
          · exact ⟨value, hv⟩
          · exact hb earlier hm
        · cases h
    · intro h
      obtain ⟨before, found, after, h, hb, hf⟩ := h
      cases before with
      | nil =>
        obtain ⟨rfl, rfl⟩ := List.cons.inj h
        exact .inl hf
      | cons first before =>
        obtain ⟨rfl, rfl⟩ := List.cons.inj h
        obtain ⟨value, hv⟩ := hb item (by simp)
        refine .inr ⟨value, hv, bind_eq_error_iff.mpr (.inl (ih.mpr ?_))⟩
        exact ⟨before, found, after, rfl, fun earlier hm => hb earlier (by simp [hm]), hf⟩

end ContractProxy
