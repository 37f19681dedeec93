import ContractProxy.Contract.Acceptance
import Mathlib.Logic.Relation

/-!
Accessors. A method is the accessor of a property if it is named for it, wherever the property is
declared. Members that are left when accessors are put in, taken out or marked otherwise are the
same, apart from the marks.
-/

set_option autoImplicit false

namespace ContractProxy.Contract

/-- A method named for a declared property. -/
inductive Accesses (members : List Member) : Member → Prop where
  | getter {property : Text} {type : TypeRef} {readable writable : Bool}
      {parameters : List Parameter} {returns : Option TypeRef} {special : Bool} :
      .property property type readable writable ∈ members →
      Accesses members (.method ("get_" ++ property) parameters returns special)
  | setter {property : Text} {type : TypeRef} {readable writable : Bool}
      {parameters : List Parameter} {returns : Option TypeRef} {special : Bool} :
      .property property type readable writable ∈ members →
      Accesses members (.method ("set_" ++ property) parameters returns special)

theorem accessedName?_eq_some_iff {name property : Text} :
    accessedName? name = some property ↔
      name = "get_" ++ property ∨ name = "set_" ++ property := by
  constructor
  · intro h
    unfold accessedName? at h
    split at h
    · left
      rw [← Option.some.inj h]
      rfl
    · right
      rw [← Option.some.inj h]
      rfl
    · cases h
  · intro h
    rcases h with rfl | rfl
    · rfl
    · rfl

theorem mem_declaredProperties_iff {members : List Member} {property : Text} :
    property ∈ declaredProperties members ↔
      ∃ type readable writable, .property property type readable writable ∈ members := by
  rw [declaredProperties, List.mem_filterMap]
  constructor
  · intro h
    obtain ⟨member, hm, h⟩ := h
    cases member with
    | property name type readable writable =>
      obtain rfl := Option.some.inj h
      exact ⟨type, readable, writable, hm⟩
    | method | event | field | constructor | nestedType => cases h
  · intro h
    obtain ⟨type, readable, writable, hm⟩ := h
    exact ⟨_, hm, rfl⟩

theorem isAccessor_iff {members : List Member} {member : Member} :
    isAccessor (declaredProperties members) member = true ↔ Accesses members member := by
  cases member with
  | method name parameters returns special =>
    simp only [isAccessor, Option.any_eq_true, List.contains_iff_mem, mem_declaredProperties_iff,
      accessedName?_eq_some_iff]
    constructor
    · intro h
      obtain ⟨property, rfl | rfl, type, readable, writable, hm⟩ := h
      · exact .getter hm
      · exact .setter hm
    · intro h
      cases h with
      | getter hm => exact ⟨_, .inl rfl, _, _, _, hm⟩
      | setter hm => exact ⟨_, .inr rfl, _, _, _, hm⟩
  | property | event | field | constructor | nestedType =>
    constructor
    · intro h
      cases h
    · intro h
      cases h

instance (members : List Member) : DecidablePred (Accesses members) := fun _ =>
  decidable_of_iff _ isAccessor_iff

theorem ownMembers_eq (members : List Member) :
    ownMembers members = members.filter fun member => ¬ Accesses members member := by
  unfold ownMembers
  apply List.filter_congr
  intro member _
  by_cases h : Accesses members member
  · simp [h, isAccessor_iff.mpr h]
  · have hnot : isAccessor (declaredProperties members) member = false := by
      rw [← Bool.not_eq_true, isAccessor_iff]
      exact h
    simp [h, hnot]

theorem declaredProperties_insert {before after : List Member} {accessor : Member}
    {members : List Member} (h : Accesses members accessor) :
    declaredProperties (before ++ accessor :: after) = declaredProperties (before ++ after) := by
  unfold declaredProperties
  -- Accessors are methods, so they declare nothing.
  cases h with
  | getter => simp
  | setter => simp

/-- A change of members that a proxy does not see. -/
inductive Unseen : List Member → List Member → Prop where
  | accessor {before after : List Member} {accessor : Member} :
      Accesses (before ++ after) accessor →
      Unseen (before ++ after) (before ++ accessor :: after)
  | mark {before after : List Member} {name : Text} {parameters : List Parameter}
      {returns : Option TypeRef} {special special' : Bool} :
      Unseen (before ++ .method name parameters returns special :: after)
        (before ++ .method name parameters returns special' :: after)

def unmarked : Member → Member
  | .method name parameters returns _ => .method name parameters returns false
  | other => other

theorem ofMember_unmarked (member : Member) : ofMember (unmarked member) = ofMember member := by
  cases member <;> rfl

theorem mapM_ofMember_unmarked (members : List Member) :
    (members.map unmarked).mapM ofMember = members.mapM ofMember := by
  rw [List.mapM_map]
  congr
  funext member
  exact ofMember_unmarked member

theorem ownMembers_insert {before after : List Member} {accessor : Member}
    (h : Accesses (before ++ after) accessor) :
    ownMembers (before ++ accessor :: after) = ownMembers (before ++ after) := by
  have hskip : isAccessor (declaredProperties (before ++ after)) accessor = true :=
    isAccessor_iff.mpr h
  unfold ownMembers
  rw [declaredProperties_insert h, List.filter_append, List.filter_append,
    List.filter_cons_of_neg (by simp [hskip])]

theorem isAccessor_unmarked (properties : List Text) (member : Member) :
    isAccessor properties (unmarked member) = isAccessor properties member := by
  cases member <;> rfl

theorem declaredProperties_unmarked (members : List Member) :
    declaredProperties (members.map unmarked) = declaredProperties members := by
  unfold declaredProperties
  rw [List.filterMap_map]
  congr 1
  funext member
  cases member <;> rfl

theorem ownMembers_unmarked (members : List Member) :
    ownMembers (members.map unmarked) = (ownMembers members).map unmarked := by
  unfold ownMembers
  rw [declaredProperties_unmarked, List.filter_map]
  congr 1
  apply List.filter_congr
  intro member _
  simp [isAccessor_unmarked]

theorem own_eq_of_unseen {members members' : List Member} (h : Unseen members members') :
    (ownMembers members).map unmarked = (ownMembers members').map unmarked := by
  cases h with
  | accessor haccess => rw [ownMembers_insert haccess]
  | mark =>
    rw [← ownMembers_unmarked, ← ownMembers_unmarked]
    simp [unmarked]

theorem mapM_ofMember_of_unseen {members members' : List Member}
    (h : Relation.EqvGen Unseen members members') :
    (ownMembers members).mapM ofMember = (ownMembers members').mapM ofMember := by
  induction h with
  | rel members members' hstep =>
    rw [← mapM_ofMember_unmarked, own_eq_of_unseen hstep, mapM_ofMember_unmarked]
  | refl members => rfl
  | symm members members' _ ih => exact ih.symm
  | trans members between members' _ _ ih ih' => exact ih.trans ih'

end ContractProxy.Contract
