import ContractProxy.Proofs.Proxy.Options
import ContractProxy.Proofs.Proxy.TypeForm

/-!
Base types of accepted options. The check cuts a base type with placeholders into names and does not
look at what stands between them. The names of the base type for a contract are made of identifiers
all the same; whether it is a type is settled by the form that the check does not look at and by the
reserved words that a contract's name makes with what stands next to it.
-/

set_option autoImplicit false

namespace ContractProxy

open CSharp (Dotted IsType Reading Spells Spot Unreserved)
open Text (fields)

theorem Text.foldlM_intercalate {State : Type} {step : State → Char → Option State}
    {mark mark' : Text} (h : ∀ state, mark.foldlM step state = mark'.foldlM step state)
    (pieces : List Text) (state : State) :
    (mark.intercalate pieces).foldlM step state = (mark'.intercalate pieces).foldlM step state := by
  induction pieces generalizing state with
  | nil => rfl
  | cons piece rest ih =>
    cases rest with
    | nil => rfl
    | cons next rest =>
      simp only [List.intercalate_cons_cons, List.foldlM_append, h, ih]

namespace ProxyOptions

section

variable {options : ProxyOptions} {contract other : Text}

theorem foldlM_baseTypeOf {State : Type} {step : State → Char → Option State}
    (h : ∀ state, contract.foldlM step state = other.foldlM step state) (state : State) :
    (options.baseTypeOf contract).foldlM step state =
      (options.baseTypeOf other).foldlM step state := by
  unfold baseTypeOf
  split_ifs
  · exact Text.foldlM_intercalate h _ state
  · simp only [List.foldlM_append, h]

theorem spells_baseTypeOf (hcontract : Dotted contract) (hother : Dotted other) :
    Spells Dotted .type (options.baseTypeOf contract) ↔
      Spells Dotted .type (options.baseTypeOf other) := by
  have hsame : ∀ reading, contract.foldlM Reading.step reading =
      other.foldlM Reading.step reading := by
    intro reading
    rw [Reading.foldlM_dotted hcontract, Reading.foldlM_dotted hother]
  rw [CSharp.spells_type_iff, CSharp.spells_type_iff, foldlM_baseTypeOf hsame]

theorem dotted_baseTypeOf (hcontract : Dotted contract) (hother : Dotted other) :
    (∀ name ∈ fields separatesNames (options.baseTypeOf contract), Dotted name) ↔
      ∀ name ∈ fields separatesNames (options.baseTypeOf other), Dotted name := by
  have hsame : ∀ spot, contract.foldlM Spot.step spot = other.foldlM Spot.step spot := by
    intro spot
    rw [Reading.spot_of_dotted hcontract, Reading.spot_of_dotted hother]
  rw [← Spot.passes_iff, ← Spot.passes_iff, Spot.Passes, Spot.Passes, foldlM_baseTypeOf hsame]

theorem isType_of_not_hasMark (hmark : Text.hasMark placeholder options.baseType = false)
    (hbase : CSharp.isDottedName options.baseType = true)
    (hcontract : CSharp.isDottedName contract = true) : IsType (options.baseTypeOf contract) := by
  have htext : options.baseTypeOf contract = options.baseType ++ '<' :: (contract ++ ['>']) := by
    rw [baseTypeOf, if_neg (by simp [hmark])]
    simp
  rw [htext]
  exact .generic (.word hbase) (.last (.plain (.word hcontract)))

theorem isDottedName_sample : CSharp.isDottedName "Contract" = true := by
  decide +kernel

theorem isDottedName_of_isBaseType (h : isBaseType options.baseType = true) :
    ∀ name ∈ fields separatesNames (options.baseTypeOf "Contract"),
      CSharp.isDottedName name = true := by
  unfold isBaseType at h
  split_ifs at h with hmark
  · rw [baseTypeOf, if_pos hmark]
    exact List.all_eq_true.mp h
  · have htype : IsType (options.baseTypeOf "Contract") :=
      isType_of_not_hasMark (by simpa using hmark) h isDottedName_sample
    exact htype.isDottedName_of_mem_fields

end

/-- Every name in the base type of accepted options for a contract is made of identifiers. The base
type is a type exactly if the one that the check looked at has the form of a type and no name came
out reserved; without placeholders it always is. -/
theorem isType_baseTypeOf_iff {options : ProxyOptions} (hvalid : options.validate = .ok ())
    {contract : Text} (hcontract : CSharp.isDottedName contract = true) :
    (∀ name ∈ fields separatesNames (options.baseTypeOf contract), Dotted name) ∧
      (IsType (options.baseTypeOf contract) ↔ IsType (options.baseTypeOf "Contract") ∧
        ∀ name ∈ fields separatesNames (options.baseTypeOf contract), Unreserved name) ∧
      (Text.hasMark placeholder options.baseType = false →
        IsType (options.baseTypeOf contract)) := by
  have hbase := (validate_eq_ok_iff.mp hvalid).baseType
  have hdotted := (CSharp.isDottedName_iff.mp hcontract).1
  have hsample : Dotted "Contract" := (CSharp.isDottedName_iff.mp isDottedName_sample).1
  have hseen := isDottedName_of_isBaseType hbase
  refine ⟨?_, ?_, ?_⟩
  · rw [dotted_baseTypeOf hdotted hsample]
    exact fun name hname => (CSharp.isDottedName_iff.mp (hseen name hname)).1
  · have hunreserved : ∀ name ∈ fields separatesNames (options.baseTypeOf "Contract"),
        Unreserved name :=
      fun name hname => (CSharp.isDottedName_iff.mp (hseen name hname)).2
    rw [CSharp.isType_iff, CSharp.isType_iff, spells_baseTypeOf hdotted hsample,
      and_iff_left hunreserved]
  · intro hmark
    have hname : CSharp.isDottedName options.baseType = true := by
      simpa [isBaseType, hmark] using hbase
    exact isType_of_not_hasMark hmark hname hcontract

def withBase (base : Text) : ProxyOptions :=
  { default with baseType := base }

theorem validate_withBase {base : Text} (h : isBaseType base = true) :
    (withBase base).validate = .ok () :=
  validate_eq_ok_iff.mpr { validate_eq_ok_iff.mp validate_default with baseType := h }

def pairBase : Text := "Acme.Base<\x7bcontract\x7d, Acme.Token>"

theorem isType_baseTypeOf_pair :
    (withBase pairBase).validate = .ok () ∧ CSharp.isDottedName "Acme.IThing" = true ∧
      IsType ((withBase pairBase).baseTypeOf "Acme.IThing") := by
  have hvalid : (withBase pairBase).validate = .ok () := validate_withBase (by decide +kernel)
  have hcontract : CSharp.isDottedName "Acme.IThing" = true := by decide +kernel
  obtain ⟨_, htype, _⟩ := isType_baseTypeOf_iff hvalid hcontract
  exact ⟨hvalid, hcontract, htype.mpr (by decide +kernel)⟩

/-- A list that is never closed. -/
theorem not_isType_baseTypeOf_unclosed :
    (withBase "Acme.Base<\x7bcontract\x7d").validate = .ok () ∧
      CSharp.isDottedName "Acme.IThing" = true ∧
        ¬ IsType ((withBase "Acme.Base<\x7bcontract\x7d").baseTypeOf "Acme.IThing") :=
  ⟨validate_withBase (by decide +kernel), by decide +kernel, by decide +kernel⟩

example : isBaseType "\x7bcontract\x7dss" = true ∧
    IsType ((withBase "\x7bcontract\x7dss").baseTypeOf "Thing") ∧
      ¬ IsType ((withBase "\x7bcontract\x7dss").baseTypeOf "cla") := by
  decide +kernel

end ProxyOptions

end ContractProxy
