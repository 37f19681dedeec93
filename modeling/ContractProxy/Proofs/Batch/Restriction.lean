import ContractProxy.Proofs.Batch.Assignment

/-!
Batches that are restricted to one contract. A contract by itself is generated as it is among all
contracts of the assembly, only that no other contract can take its file. Main statement: what the
batch of all contracts holds for a contract decides what the batch of that contract consists of.
-/

set_option autoImplicit false

namespace ContractProxy.Generator

def unrestricted (generator : Generator) : Generator :=
  { generator with only := none }

def restrictedTo (generator : Generator) (name : Text) : Generator :=
  { generator with only := some name }

def Batch.ofOutcomes (outcomes : List (Text × Outcome)) : Batch where
  units := successes outcomes
  failures := Generator.failures outcomes
  events := (Generator.failures outcomes).map fun (contract, fault) => contractFailed contract fault

theorem batch_eq (generator : Generator) : generator.batch = .ofOutcomes generator.selected :=
  rfl

/-- What a contract comes to among all contracts, and by itself. -/
inductive ComesTo (contract : Text) : Outcome → Outcome → Prop
  | generated {unit : ProxyUnit} : ComesTo contract (.ok unit) (.ok unit)
  | freed {unit : ProxyUnit} {first : Text} :
    ComesTo contract (.error (.duplicateOutput unit.fileName first contract)) (.ok unit)
  | failed {fault : GenerateFault}
    (hown : ∀ file first second, fault ≠ .duplicateOutput file first second) :
    ComesTo contract (.error fault) (.error fault)

theorem ne_duplicateOutput_of_ofType {generator : Generator} {type : TypeDeclaration}
    {fault : GenerateFault} (h : generator.ofType type = .error fault) (file first second : Text) :
    fault ≠ .duplicateOutput file first second := by
  rcases fault_of_ofType h with ⟨rejection, rfl⟩ | ⟨found, rfl⟩
  · simp
  · simp

theorem comesTo_settle (generator : Generator) (earlier : List (Text × Outcome)) (contract : Text)
    (type : TypeDeclaration) :
    ∃ whole, settle earlier (contract, generator.ofType type) = (contract, whole) ∧
      ComesTo contract whole (generator.ofType type) := by
  cases houtcome : generator.ofType type with
  | error fault => exact ⟨_, rfl, .failed (ne_duplicateOutput_of_ofType houtcome)⟩
  | ok unit =>
    rw [settle]
    cases claimant? earlier (Text.lowercase unit.fileName) with
    | some first => exact ⟨_, rfl, .freed⟩
    | none => exact ⟨_, rfl, .generated⟩

theorem selected_eq_append {generator : Generator} {before after : List (Text × Outcome)}
    {entry : Text × Outcome} (h : generator.outcomes = before ++ entry :: after) :
    ∃ earlier later, generator.selected = earlier ++ settle before entry :: later ∧
      earlier.length = before.length ∧ later.length = after.length := by
  have hlength := generator.length_selected
  have hentry : generator.selected[before.length]? = some (settle before entry) := by
    rw [getElem?_selected, h]
    simp
  obtain ⟨hlt, hentry⟩ := List.getElem?_eq_some_iff.mp hentry
  refine ⟨generator.selected.take before.length, generator.selected.drop (before.length + 1),
    ?_, List.length_take_of_le (Nat.le_of_lt hlt), ?_⟩
  · rw [← hentry, ← List.drop_eq_getElem_cons, List.take_append_drop]
  · rw [List.length_drop, hlength, h, List.length_append, List.length_cons]
    omega

theorem selected_restrictedTo (generator : Generator) (name : Text) :
    (generator.restrictedTo name).selected = [(name, generator.ofName name)] := by
  change assignFiles [] [(name, generator.ofName name)] = _
  cases generator.ofName name <;> rfl

theorem find?_eq_some_of_first {assembly : Assembly} {before after : List TypeDeclaration}
    {type : TypeDeclaration} (htypes : assembly.types = before ++ type :: after)
    (hfirst : ∀ other ∈ before, other.fullName ≠ type.fullName) :
    assembly.find? type.fullName = some type := by
  rw [Assembly.find?, htypes, List.find?_eq_some_iff_append]
  exact ⟨beq_self_eq_true _, before, after, rfl, fun other hm => by simpa using hfirst other hm⟩

/-- The first type of its full name, if it is a contract, has one place in the batch of all
contracts, and what stands there tells the only outcome of the batch of that name. A name that no
type carries is the only failure of its batch. -/
theorem batch_restricted (generator : Generator) :
    (∀ before type after, generator.assembly.types = before ++ type :: after →
      (∀ other ∈ before, other.fullName ≠ type.fullName) → type.isContract = true →
      ∃ earlier later whole alone,
        generator.unrestricted.batch =
          .ofOutcomes (earlier ++ (type.fullName, whole) :: later) ∧
        earlier.length = (before.filter TypeDeclaration.isContract).length ∧
        later.length = (after.filter TypeDeclaration.isContract).length ∧
        ComesTo type.fullName whole alone ∧ generator.ofType type = alone ∧
        (generator.restrictedTo type.fullName).batch = .ofOutcomes [(type.fullName, alone)]) ∧
    ∀ name, (∀ type ∈ generator.assembly.types, type.fullName ≠ name) →
      (generator.restrictedTo name).batch =
        .ofOutcomes [(name, .error (.contractNotFound name))] := by
  constructor
  · intro before type after htypes hfirst hcontract
    -- The contracts of the assembly are cut at the type as its types are.
    have houtcomes : generator.unrestricted.outcomes =
        (before.filter TypeDeclaration.isContract).map
            (fun type => (type.fullName, generator.ofType type)) ++
          (type.fullName, generator.ofType type) ::
            (after.filter TypeDeclaration.isContract).map
              fun type => (type.fullName, generator.ofType type) := by
      change (generator.assembly.types.filter TypeDeclaration.isContract).map _ = _
      rw [htypes, List.filter_append, List.filter_cons_of_pos hcontract, List.map_append,
        List.map_cons]
      rfl
    obtain ⟨earlier, later, hselected, hearlier, hlater⟩ := selected_eq_append houtcomes
    obtain ⟨whole, hwhole, hcomes⟩ := comesTo_settle generator
      ((before.filter TypeDeclaration.isContract).map
        fun type => (type.fullName, generator.ofType type)) type.fullName type
    refine ⟨earlier, later, whole, generator.ofType type, ?_, ?_, ?_, hcomes, rfl, ?_⟩
    · rw [batch_eq, hselected, hwhole]
    · rw [hearlier, List.length_map]
    · rw [hlater, List.length_map]
    · rw [batch_eq, selected_restrictedTo, ofName, find?_eq_some_of_first htypes hfirst]
  · intro name hname
    have hnone : generator.assembly.find? name = none := by
      rw [Assembly.find?, List.find?_eq_none]
      exact fun type hm => by simpa using hname type hm
    rw [batch_eq, selected_restrictedTo, ofName, hnone]

def lateDepot : TypeDeclaration :=
  ⟨"Acme", "iDepot", .interface, true, []⟩

/-- A contract between one that claims its file and a type of its own full name. -/
def nearDepots : Generator where
  assembly :=
    ⟨"Acme", [{ lateDepot with name := "IDepot" }, lateDepot,
      { lateDepot with scope := [], name := "Acme.iDepot" }]⟩
  scope := "Acme.Proxies"
  template := ⟨.default, .default⟩
  only := none

theorem batch_restricted_nearDepots :
    nearDepots.unrestricted.batch.failures.head? =
        some ⟨"Acme.iDepot",
          .duplicateOutput "RestartableDepot.cs" "Acme.IDepot" "Acme.iDepot"⟩ ∧
      (∃ unit, nearDepots.ofType lateDepot = .ok unit ∧
        (nearDepots.restrictedTo "Acme.iDepot").batch = .ofOutcomes [("Acme.iDepot", .ok unit)]) ∧
      (nearDepots.restrictedTo "Acme.INone").batch =
        .ofOutcomes [("Acme.INone", .error (.contractNotFound "Acme.INone"))] := by
  obtain ⟨hfirst, hunknown⟩ := batch_restricted nearDepots
  obtain ⟨_, _, _, alone, _, _, _, _, halone, hbatch⟩ :=
    hfirst [{ lateDepot with name := "IDepot" }] lateDepot
      [{ lateDepot with scope := [], name := "Acme.iDepot" }] rfl (by decide) rfl
  have hmade : (nearDepots.ofType lateDepot).toOption.isSome = true := by decide +kernel
  refine ⟨by decide +kernel, ?_, hunknown "Acme.INone" (by decide)⟩
  cases alone with
  | error fault =>
    rw [halone] at hmade
    cases hmade
  | ok unit => exact ⟨unit, halone, hbatch⟩

end ContractProxy.Generator
