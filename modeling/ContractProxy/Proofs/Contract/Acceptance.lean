import ContractProxy.Batch.Generator
import ContractProxy.Proofs.Contract.Accessor
import ContractProxy.Proofs.Contract.Member
import ContractProxy.Proofs.Proxy.Unit

/-!
Which declared types are contracts, and what the contract and its proxy hold. A type is accepted
exactly if it is an exported interface with a plain name in a plain namespace and a proxy can
forward each member that is no accessor.
-/

set_option autoImplicit false

namespace ContractProxy

def Member.isMethod : Member → Bool
  | .method .. => true
  | _ => false

namespace Contract

open Rejection (Cause)

/-- A type whose name, kind and namespace can be those of a contract. -/
structure SoundHeader (type : TypeDeclaration) : Prop where
  exported : type.exported = true
  interface : type.kind = .interface
  notGeneric : '\x60' ∉ type.name
  named : CSharp.isIdentifier type.name = true
  placed : type.scope = [] ∨ CSharp.isDottedName type.scope = true

theorem isContract_iff {type : TypeDeclaration} :
    type.isContract = true ↔ type.exported = true ∧ type.kind = .interface := by
  simp [TypeDeclaration.isContract]

theorem checkType_eq_ok_iff {type : TypeDeclaration} :
    checkType type = .ok () ↔ SoundHeader type := by
  unfold checkType
  constructor
  · intro h
    split_ifs at h with hcontract hgeneric hname hscope
    obtain ⟨hexported, hkind⟩ := isContract_iff.mp (by simpa using hcontract)
    refine ⟨hexported, hkind, by simpa using hgeneric, by simpa using hname, ?_⟩
    by_cases hempty : type.scope = []
    · exact .inl hempty
    · right
      simpa [hempty] using hscope
  · intro h
    obtain ⟨hexported, hkind, hgeneric, hname, hscope⟩ := h
    have hcontract : type.isContract = true := isContract_iff.mpr ⟨hexported, hkind⟩
    rw [if_neg (by simp [hcontract]), if_neg (by simpa using hgeneric), if_neg (by simp [hname]),
      if_neg]
    rcases hscope with hempty | hdotted
    · simp [hempty]
    · simp [hdotted]

def properMembers (type : TypeDeclaration) : List Member :=
  type.members.filter fun member => ¬ Accesses type.members member

structure Acceptable (type : TypeDeclaration) : Prop where
  header : SoundHeader type
  members : ∀ member ∈ properMembers type, Expressible member

/-- The contract that a type stands for: its names, and one member for each that is no accessor. -/
structure Describes (contract : Contract) (type : TypeDeclaration) : Prop where
  name : contract.name = type.name
  fullName : contract.fullName = type.fullName
  members : List.Forall₂ ForwardedAs (properMembers type) contract.members

theorem mapM_ofMember_eq_ok_iff {members : List Member} {results : List ContractMember} :
    members.mapM ofMember = .ok results ↔
      (∀ member ∈ members, Expressible member) ∧ List.Forall₂ ForwardedAs members results := by
  rw [mapM_eq_ok_iff, ← List.forall₂_and_left]
  simp only [ofMember_eq_ok_iff]

theorem checked_eq_ok_iff {type : TypeDeclaration} {results : List ContractMember} :
    (checkType type >>= fun _ => (ownMembers type.members).mapM ofMember) = .ok results ↔
      Acceptable type ∧ List.Forall₂ ForwardedAs (properMembers type) results := by
  rw [then_eq_ok_iff, checkType_eq_ok_iff, ownMembers_eq, mapM_ofMember_eq_ok_iff]
  constructor
  · intro h
    obtain ⟨hheader, hmembers, hresults⟩ := h
    exact ⟨⟨hheader, hmembers⟩, hresults⟩
  · intro h
    obtain ⟨⟨hheader, hmembers⟩, hresults⟩ := h
    exact ⟨hheader, hmembers, hresults⟩

theorem ofType_eq_ok_iff {type : TypeDeclaration} {contract : Contract} :
    ofType type = .ok contract ↔ Acceptable type ∧ Describes contract type := by
  obtain ⟨name, fullName, members⟩ := contract
  unfold ofType
  cases h : checkType type >>= fun _ => (ownMembers type.members).mapM ofMember with
  | error cause =>
    constructor
    · intro hresult
      cases hresult
    · intro h
      obtain ⟨hacceptable, hdescribes⟩ := h
      rw [checked_eq_ok_iff.mpr ⟨hacceptable, hdescribes.members⟩] at h
      cases h
  | ok results =>
    obtain ⟨hacceptable, hresults⟩ := checked_eq_ok_iff.mp h
    constructor
    · intro hresult
      cases hresult
      exact ⟨hacceptable, rfl, rfl, hresults⟩
    · intro h
      obtain ⟨_, hname, hfull, hmembers⟩ := h
      have hsame := checked_eq_ok_iff.mpr ⟨hacceptable, hmembers⟩
      rw [h] at hsame
      cases hsame
      cases hname
      cases hfull
      rfl

theorem ofType_eq_error_iff {type : TypeDeclaration} {rejection : Rejection} :
    ofType type = .error rejection ↔ rejection.contract = type.fullName ∧
      (checkType type = .error rejection.cause ∨
        checkType type = .ok () ∧
          (ownMembers type.members).mapM ofMember = .error rejection.cause) := by
  obtain ⟨contract, cause⟩ := rejection
  rw [← then_eq_error_iff]
  unfold ofType
  cases h : checkType type >>= fun _ => (ownMembers type.members).mapM ofMember with
  | error found => simp [eq_comm]
  | ok results => simp

def FirstOffence (members : List Member) (cause : Cause) : Prop :=
  ∃ before member after, members = before ++ member :: after ∧
    (∀ earlier ∈ before, Expressible earlier) ∧ Offence member cause

theorem mapM_ofMember_eq_error_iff {members : List Member} {cause : Cause} :
    members.mapM ofMember = .error cause ↔ FirstOffence members cause := by
  rw [mapM_eq_error_iff, FirstOffence]
  simp only [ofMember_eq_error_iff, ofMember_eq_ok_iff]
  constructor
  · intro h
    obtain ⟨before, member, after, heq, hbefore, hoffence⟩ := h
    refine ⟨before, member, after, heq, ?_, hoffence⟩
    intro earlier he
    obtain ⟨_, hexpressible, _⟩ := hbefore earlier he
    exact hexpressible
  · intro h
    obtain ⟨before, member, after, heq, hbefore, hoffence⟩ := h
    refine ⟨before, member, after, heq, ?_, hoffence⟩
    intro earlier he
    obtain ⟨result, hforwarded⟩ := (hbefore earlier he).exists_forwardedAs
    exact ⟨result, hbefore earlier he, hforwarded⟩

theorem exists_ofType_iff {type : TypeDeclaration} :
    (∃ contract, ofType type = .ok contract) ↔ Acceptable type := by
  constructor
  · intro h
    obtain ⟨contract, h⟩ := h
    exact (ofType_eq_ok_iff.mp h).1
  · intro hacceptable
    cases h : ofType type with
    | ok contract => exact ⟨contract, rfl⟩
    | error rejection =>
      rcases (ofType_eq_error_iff.mp h).2 with hheader | ⟨_, hmembers⟩
      · rw [checkType_eq_ok_iff.mpr hacceptable.header] at hheader
        cases hheader
      · rw [ownMembers_eq] at hmembers
        obtain ⟨_, member, _, heq, _, hfault⟩ := mapM_eq_error_iff.mp hmembers
        have hexpressible : Expressible member :=
          hacceptable.members member (by rw [properMembers, heq]; simp)
        obtain ⟨result, hforwarded⟩ := hexpressible.exists_forwardedAs
        rw [ofMember_eq_ok_iff.mpr ⟨hexpressible, hforwarded⟩] at hfault
        cases hfault

theorem ofType_eq_error_of_header {type : TypeDeclaration} (hheader : SoundHeader type)
    {rejection : Rejection} :
    ofType type = .error rejection ↔ rejection.contract = type.fullName ∧
      FirstOffence (properMembers type) rejection.cause := by
  rw [ofType_eq_error_iff, checkType_eq_ok_iff.mpr hheader, ownMembers_eq,
    mapM_ofMember_eq_error_iff]
  simp [properMembers]

theorem ofType_of_unseen {type : TypeDeclaration} {members : List Member}
    (h : Relation.EqvGen Unseen type.members members) :
    ofType { type with members := members } = ofType type := by
  have hheader : checkType { type with members := members } = checkType type := rfl
  have hname : TypeDeclaration.fullName { type with members := members } = type.fullName := rfl
  simp only [ofType, hheader, hname, mapM_ofMember_of_unseen h]

theorem ForwardedAs.signature {member : Member} {result : ContractMember}
    (h : ForwardedAs member result) :
    result.name = member.name ∧ result.isMethod = member.isMethod := by
  cases h with
  | method => exact ⟨rfl, rfl⟩
  | property => exact ⟨rfl, rfl⟩

theorem Describes.signatures {contract : Contract} {type : TypeDeclaration}
    (h : Describes contract type) :
    contract.members.map (fun member => (member.name, member.isMethod)) =
      (properMembers type).map fun member => (member.name, member.isMethod) := by
  symm
  refine map_eq_map_of_forall₂ h.members ?_
  intro member result hforwarded
  obtain ⟨hname, hkind⟩ := hforwarded.signature
  rw [hname, hkind]

theorem signatures_of_ofName {generator : Generator} {name : Text} {unit : ProxyUnit}
    {type : TypeDeclaration} (hfind : generator.assembly.find? name = some type)
    (h : generator.ofName name = .ok unit) :
    unit.members.map (fun piece => (piece.name, piece.isMethod)) =
      (properMembers type).map fun member => (member.name, member.isMethod) := by
  simp only [Generator.ofName, hfind, Generator.ofType] at h
  obtain ⟨contract, hcontract, hunit⟩ := bind_eq_ok_iff.mp h
  have hdescribes := (ofType_eq_ok_iff.mp (mapError_eq_ok_iff.mp hcontract)).2
  rw [ProxyTemplate.members_of_unitFor (mapError_eq_ok_iff.mp hunit)]
  exact hdescribes.signatures

/-- Which types are contracts, what their contract and their unit hold, which member a refusal is
due to, and which changes of the members make no difference. -/
theorem ofType_folds_accessors (type : TypeDeclaration) :
    ((∃ contract, ofType type = .ok contract) ↔ Acceptable type) ∧
    (∀ contract, ofType type = .ok contract → Describes contract type) ∧
    (∀ (generator : Generator) (name : Text) (unit : ProxyUnit),
      generator.assembly.find? name = some type → generator.ofName name = .ok unit →
        unit.members.map (fun piece => (piece.name, piece.isMethod)) =
          (properMembers type).map fun member => (member.name, member.isMethod)) ∧
    (SoundHeader type → ∀ rejection, ofType type = .error rejection ↔
      rejection.contract = type.fullName ∧
        FirstOffence (properMembers type) rejection.cause) ∧
    ∀ members, Relation.EqvGen Unseen type.members members →
      ofType { type with members := members } = ofType type := by
  refine ⟨exists_ofType_iff, ?_, ?_, ?_, ?_⟩
  · intro contract h
    exact (ofType_eq_ok_iff.mp h).2
  · intro generator name unit hfind hunit
    exact signatures_of_ofName hfind hunit
  · intro hheader rejection
    exact ofType_eq_error_of_header hheader
  · intro members h
    exact ofType_of_unseen h

/-- An interface that lists an accessor before its property. -/
def shelf : TypeDeclaration where
  scope := "Acme"
  name := "IShelf"
  kind := .interface
  exported := true
  members :=
    [.method "get_Count" [] (some (.named "System.Int32")) true,
      .property "Count" (.named "System.Int32") true false,
      .method "Clear" [] (some (.named "System.Void")) false]

theorem ofType_shelf : ofType shelf = .ok ⟨"IShelf", "Acme.IShelf",
    [.property "Count" (.named "System.Int32") false, .method "Clear" [] none]⟩ := by
  decide +kernel

theorem ofType_folds_accessors_shelf :
    Acceptable shelf ∧ ofType { shelf with members := shelf.members.tail } = ofType shelf := by
  obtain ⟨haccepted, _, _, _, hunseen⟩ := ofType_folds_accessors shelf
  refine ⟨haccepted.mp ⟨_, ofType_shelf⟩, hunseen _ ?_⟩
  have hproperty : .property "Count" (.named "System.Int32") true false ∈
      ([] ++ shelf.members.tail : List Member) := by
    simp [shelf]
  have hstep : Unseen ([] ++ shelf.members.tail)
      ([] ++ .method "get_Count" [] (some (.named "System.Int32")) true :: shelf.members.tail) :=
    .accessor (.getter hproperty)
  exact .symm _ _ (.rel _ _ hstep)

end Contract

end ContractProxy
