import ContractProxy.Proofs.FirstFault
import ContractProxy.TypeRef.Validity
import Mathlib.Data.List.TakeWhile

/-!
What the check of a type reference asks of each of its nodes. A reference is accepted exactly if
its own node is in order and all its arguments are accepted, so every node below is in order too.
-/

set_option autoImplicit false

namespace ContractProxy.TypeRef

def stem (base : Text) : Text :=
  (splitArity base).1

theorem stem_eq_takeWhile (base : Text) : stem base = base.takeWhile (· != '\x60') := by
  unfold stem splitArity
  split
  · rename_i h
    rw [List.dropWhile_eq_nil_iff] at h
    exact (List.takeWhile_eq_self_iff.mpr h).symm
  · rfl

structure SoundNode (name : Text) (arguments : Nat) (rank : UInt32) (base : Text)
    (ranks : List Nat) : Prop where
  parts : peelSuffixes none [] name.reverse = some (base, ranks)
  narrow : widestRank ranks rank ≤ maxRank
  notVoid : stem base ≠ voidName
  named : CSharp.isDottedName (dotted (stem base)) = true
  arity : ∀ digits, (splitArity base).2 = some digits → arity? digits = some arguments

theorem checkNode_of_parts {name base : Text} {arguments : Nat} {rank : UInt32}
    {ranks : List Nat} (h : peelSuffixes none [] name.reverse = some (base, ranks)) :
    checkNode name arguments rank =
      if maxRank < widestRank ranks rank then .error (.rankTooLarge (widestRank ranks rank))
      else if (splitArity base).2.map arity? = some none then .error (.invalid name)
      else if stem base = voidName then .error .void
      else if CSharp.isDottedName (dotted (stem base)) = false then .error (.invalid name)
      else if ∃ digits, (splitArity base).2 = some digits ∧ arity? digits ≠ some arguments then
        .error (.invalid name)
      else .ok () := by
  simp only [checkNode, h, stem]
  cases hd : (splitArity base).2 with
  | none => simp
  | some digits => cases ha : arity? digits <;> simp [ha]

theorem checkNode_eq_ok_iff {name : Text} {arguments : Nat} {rank : UInt32} :
    checkNode name arguments rank = .ok () ↔
      ∃ base ranks, SoundNode name arguments rank base ranks := by
  constructor
  · intro h
    cases hparts : peelSuffixes none [] name.reverse with
    | none => simp [checkNode, hparts] at h
    | some parts =>
      obtain ⟨base, ranks⟩ := parts
      rw [checkNode_of_parts hparts] at h
      split_ifs at h with hwide hdigits hvoid hname harity
      refine ⟨base, ranks, hparts, Nat.not_lt.mp hwide, hvoid, by simpa using hname, ?_⟩
      intro digits hd
      by_contra hne
      exact harity ⟨digits, hd, hne⟩
  · intro h
    obtain ⟨base, ranks, hparts, hnarrow, hvoid, hnamed, harity⟩ := h
    rw [checkNode_of_parts hparts, if_neg (Nat.not_lt.mpr hnarrow), if_neg, if_neg hvoid, if_neg,
      if_neg]
    · intro h
      obtain ⟨digits, hd, hne⟩ := h
      exact hne (harity digits hd)
    · simp [hnamed]
    · intro hnone
      obtain ⟨digits, hd, ha⟩ := Option.map_eq_some_iff.mp hnone
      simp [harity digits hd] at ha

theorem checkAll_eq_ok_iff {types : List TypeRef} :
    checkAll types = .ok () ↔ ∀ type ∈ types, type.check = .ok () := by
  induction types with
  | nil => simp [checkAll]
  | cons type others ih =>
    rw [checkAll, List.forall_mem_cons, ← ih]
    exact then_eq_ok_iff

theorem check_eq_ok_iff {name : Text} {arguments : List TypeRef} {rank : UInt32} :
    check ⟨name, arguments, rank⟩ = .ok () ↔
      checkNode name arguments.length rank = .ok () ∧ ∀ type ∈ arguments, type.check = .ok () := by
  rw [check, ← checkAll_eq_ok_iff]
  exact then_eq_ok_iff

mutual

def nodes : TypeRef → List TypeRef
  | ⟨name, arguments, rank⟩ => ⟨name, arguments, rank⟩ :: nodesAll arguments

def nodesAll : List TypeRef → List TypeRef
  | [] => []
  | type :: others => nodes type ++ nodesAll others

end

theorem nodesAll_eq_flatMap (types : List TypeRef) : nodesAll types = types.flatMap nodes := by
  induction types with
  | nil => rfl
  | cons type others ih => rw [nodesAll, ih, List.flatMap_cons]

mutual

theorem argumentInduction {motive : TypeRef → Prop}
    (node : ∀ name arguments rank, (∀ type ∈ arguments, motive type) →
      motive ⟨name, arguments, rank⟩) : ∀ type, motive type
  | ⟨name, arguments, rank⟩ => node name arguments rank (argumentInductionAll node arguments)

theorem argumentInductionAll {motive : TypeRef → Prop}
    (node : ∀ name arguments rank, (∀ type ∈ arguments, motive type) →
      motive ⟨name, arguments, rank⟩) : ∀ types : List TypeRef, ∀ type ∈ types, motive type
  | [] => by simp
  | type :: others => by
    rw [List.forall_mem_cons]
    exact ⟨argumentInduction node type, argumentInductionAll node others⟩

end

mutual

theorem check_of_mem_nodes : ∀ {type node : TypeRef}, type.check = .ok () →
    node ∈ type.nodes → node.check = .ok ()
  | ⟨name, arguments, rank⟩, node, h, hm => by
    rw [nodes, List.mem_cons] at hm
    rcases hm with rfl | hm
    · exact h
    · exact check_of_mem_nodesAll (check_eq_ok_iff.mp h).2 hm

theorem check_of_mem_nodesAll : ∀ {types : List TypeRef} {node : TypeRef},
    (∀ type ∈ types, type.check = .ok ()) → node ∈ nodesAll types → node.check = .ok ()
  | [], node, _, hm => by simp [nodesAll] at hm
  | type :: others, node, h, hm => by
    rw [nodesAll, List.mem_append] at hm
    rcases hm with hm | hm
    · exact check_of_mem_nodes (h type (by simp)) hm
    · exact check_of_mem_nodesAll (fun other ho => h other (by simp [ho])) hm

end

end ContractProxy.TypeRef
