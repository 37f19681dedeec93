import ContractProxy.Proofs.Json.Tree
import ContractProxy.TypeRef.Json

/-!
References in JSON. Main statement: a reference that is written as an object is read back, by every
reader that lets the containers of the object be open.
-/

set_option autoImplicit false

namespace ContractProxy

namespace Json

theorem toNat_lt_wordLimit (word : UInt32) : word.toNat < Number.wordLimit :=
  Nat.lt_trans word.toNat_lt_size (by decide)

theorem asWord_ofNat (word : UInt32) : asWord (ofNat word.toNat) = .ok word := by
  have hword : word.toNat < UInt32.size := word.toNat_lt_size
  simp [asWord, ofNat, ofSpelling?_decimal (toNat_lt_wordLimit word), hword]

end Json

namespace TypeRef

mutual

theorem printable_toJson (type : TypeRef) : type.toJson.Printable := by
  match type with
  | ⟨name, arguments, rank⟩ =>
    rw [toJson]
    refine Json.printable_ofMembers ?_
    rw [List.forall_mem_cons, List.forall_mem_append]
    refine ⟨Json.printable_ofText name, ?_, ?_⟩
    · split_ifs
      · simp
      · rw [List.forall_mem_singleton]
        exact Json.printable_ofList (printable_toJsonAll arguments)
    · split_ifs
      · simp
      · rw [List.forall_mem_singleton]
        exact Json.printable_ofNat (Json.toNat_lt_wordLimit rank)

theorem printable_toJsonAll (types : List TypeRef) : ∀ item ∈ toJsonAll types, item.Printable := by
  match types with
  | [] => simp [toJsonAll]
  | type :: types =>
    rw [toJsonAll, List.forall_mem_cons]
    exact ⟨printable_toJson type, printable_toJsonAll types⟩

end

mutual

theorem ofJson?_toJson (type : TypeRef) : ofJson? type.toJson = some type := by
  match type with
  | ⟨name, arguments, rank⟩ =>
    have harguments := ofItems?_toJsonAll arguments
    have hrank := Json.asWord_ofNat rank
    -- Arguments and rank are written only where there are any.
    by_cases hnone : arguments = [] <;> by_cases hzero : rank = 0 <;>
      simp [toJson, Json.ofMembers, Json.ofText, Json.ofList, ofJson?, ofMembers?, hnone, hzero,
        harguments, hrank]

theorem ofItems?_toJsonAll (types : List TypeRef) : ofItems? (toJsonAll types) = some types := by
  match types with
  | [] => rfl
  | type :: types =>
    rw [toJsonAll, ofItems?, ofJson?_toJson type, ofItems?_toJsonAll types]
    rfl

end

theorem reader_toJson {type : TypeRef} {depth : Nat} (h : type.toJson.nesting ≤ depth) :
    reader depth type.toJson = .ok type := by
  rw [reader, Json.readable_of_nesting _ (printable_toJson type) h, if_pos rfl, ofJson?_toJson]

end TypeRef

end ContractProxy
