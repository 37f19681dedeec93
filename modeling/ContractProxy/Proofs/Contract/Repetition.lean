import ContractProxy.Proofs.Contract.Acceptance
import ContractProxy.Proofs.Proxy.Options

/-!
Members that are declared more than once. A contract repeats properties and methods as often as its
type declares them, and its class has a wrapper for each.
-/

set_option autoImplicit false

namespace ContractProxy

/-- A method's name with the types of its parameters, by which overloads are told apart. -/
def ContractMember.signature? : ContractMember → Option (Text × List TypeRef)
  | .method name parameters _ => some (name, parameters.map Parameter.type)
  | .property .. => none

def ContractMember.property? : ContractMember → Option Text
  | .method .. => none
  | .property name _ _ => some name

def Member.signature? : Member → Option (Text × List TypeRef)
  | .method name parameters _ _ => some (name, parameters.map Parameter.type)
  | _ => none

def Member.property? : Member → Option Text
  | .property name _ _ _ => some name
  | _ => none

namespace Contract

def signatures (contract : Contract) : List (Text × List TypeRef) :=
  contract.members.filterMap ContractMember.signature?

def declaredSignatures (type : TypeDeclaration) : List (Text × List TypeRef) :=
  (properMembers type).filterMap Member.signature?

structure Unique (contract : Contract) : Prop where
  properties : contract.propertyNames.Nodup
  methods : contract.signatures.Nodup

theorem filterMap_eq_of_forall₂ {α β γ : Type} {related : α → β → Prop} {f : α → Option γ}
    {g : β → Option γ} {items : List α} {values : List β} (h : List.Forall₂ related items values)
    (himage : ∀ item value, related item value → f item = g value) :
    items.filterMap f = values.filterMap g := by
  have hmaps := congrArg (List.filterMap id) (map_eq_map_of_forall₂ h himage)
  simpa only [List.filterMap_map, Function.id_comp] using hmaps

theorem filterMap_property? (members : List ContractMember) :
    members.filterMap ContractMember.property? =
      (members.filter (!·.isMethod)).map ContractMember.name := by
  induction members with
  | nil => rfl
  | cons member rest ih =>
    cases member with
    | method => exact ih
    | property name => exact congrArg (name :: ·) ih

theorem map_signature? (members : List ContractMember) :
    (members.filterMap ContractMember.signature?).map Prod.fst =
      (members.filter ContractMember.isMethod).map ContractMember.name := by
  induction members with
  | nil => rfl
  | cons member rest ih =>
    cases member with
    | method name => exact congrArg (name :: ·) ih
    | property => exact ih

theorem declaredProperties_eq (type : TypeDeclaration) :
    declaredProperties type.members = (properMembers type).filterMap Member.property? := by
  rw [properMembers, List.filterMap_filter, declaredProperties]
  congr 1
  funext member
  cases member with
  | property name type' readable writable =>
    have hno : ¬ Accesses type.members (.property name type' readable writable) := by
      intro h
      cases h
    simp [hno, Member.property?]
  | method | event | field | constructor | nestedType => simp [Member.property?]

theorem propertyNames_of_describes {type : TypeDeclaration} {contract : Contract}
    (h : Describes contract type) :
    contract.propertyNames = declaredProperties type.members := by
  rw [declaredProperties_eq, propertyNames, ← filterMap_property?]
  symm
  refine filterMap_eq_of_forall₂ h.members ?_
  intro member result hforwarded
  cases hforwarded with
  | method => rfl
  | property => rfl

theorem signatures_of_describes {type : TypeDeclaration} {contract : Contract}
    (h : Describes contract type) : contract.signatures = declaredSignatures type := by
  symm
  refine filterMap_eq_of_forall₂ h.members ?_
  intro member result hforwarded
  cases hforwarded with
  | method => rfl
  | property => rfl

theorem names_of_unitFor {template : ProxyTemplate} {scope : Text} {contract : Contract}
    {unit : ProxyUnit} (h : template.unitFor scope contract = .ok unit) :
    (unit.members.filter (!·.isMethod)).map Fragment.name = contract.propertyNames ∧
      (unit.members.filter Fragment.isMethod).map Fragment.name = contract.methodNames := by
  have hmembers := ProxyTemplate.members_of_unitFor h
  constructor
  · have hnames := congrArg (fun pairs => (pairs.filter (!·.2)).map Prod.fst) hmembers
    simp only [List.filter_map, List.map_map, Function.comp_def] at hnames
    exact hnames
  · have hnames := congrArg (fun pairs => (pairs.filter (·.2)).map Prod.fst) hmembers
    simp only [List.filter_map, List.map_map, Function.comp_def] at hnames
    exact hnames

/-- A contract has the properties and methods that its type declares, each as often, so that it is
unique exactly if nothing is declared twice. The class has as many wrappers of them. -/
theorem unique_iff_of_ofType {type : TypeDeclaration} {contract : Contract}
    (h : ofType type = .ok contract) :
    contract.propertyNames = declaredProperties type.members ∧
    contract.signatures = declaredSignatures type ∧
    (contract.Unique ↔
      (declaredProperties type.members).Nodup ∧ (declaredSignatures type).Nodup) ∧
    ∀ (template : ProxyTemplate) (scope : Text) (unit : ProxyUnit),
      template.unitFor scope contract = .ok unit →
        (unit.members.filter (!·.isMethod)).map Fragment.name = declaredProperties type.members ∧
        (unit.members.filter Fragment.isMethod).map Fragment.name =
          (declaredSignatures type).map Prod.fst := by
  have hdescribes := (ofType_eq_ok_iff.mp h).2
  have hproperties := propertyNames_of_describes hdescribes
  have hsignatures := signatures_of_describes hdescribes
  refine ⟨hproperties, hsignatures, ?_, ?_⟩
  · rw [← hproperties, ← hsignatures]
    exact ⟨fun hunique => ⟨hunique.properties, hunique.methods⟩, fun hnodup => ⟨hnodup.1, hnodup.2⟩⟩
  · intro template scope unit hunit
    obtain ⟨hnames, hmethods⟩ := names_of_unitFor hunit
    rw [hnames, hmethods, hproperties, ← hsignatures, signatures, map_signature?]
    exact ⟨rfl, rfl⟩

/-- An interface with two methods of one name, told apart by their parameters. -/
def adder : TypeDeclaration where
  scope := "Acme"
  name := "IAdder"
  kind := .interface
  exported := true
  members :=
    [.method "Add" [⟨"count", .named "System.Int32"⟩] none false,
      .property "Total" (.named "System.Int32") true false,
      .method "get_Total" [] (some (.named "System.Int32")) true,
      .method "Add" [⟨"text", .named "System.String"⟩] none false]

def adderContract : Contract where
  name := "IAdder"
  fullName := "Acme.IAdder"
  members :=
    [.method "Add" [⟨"count", .named "System.Int32"⟩] none,
      .property "Total" (.named "System.Int32") false,
      .method "Add" [⟨"text", .named "System.String"⟩] none]

theorem unique_iff_of_ofType_adder :
    ofType adder = .ok adderContract ∧ (declaredSignatures adder).length = 2 ∧
      adderContract.Unique ∧
      ∃ unit, ProxyTemplate.default.unitFor "Acme.Proxies" adderContract = .ok unit ∧
        (unit.members.filter Fragment.isMethod).map Fragment.name = [("Add" : Text), "Add"] := by
  have hadder : ofType adder = .ok adderContract := by decide +kernel
  obtain ⟨-, -, hunique, hunits⟩ := unique_iff_of_ofType hadder
  obtain ⟨unit, hunit⟩ : ∃ unit,
      ProxyTemplate.default.unitFor "Acme.Proxies" adderContract = .ok unit :=
    ⟨_, ProxyTemplate.unitFor_eq_ok_iff.mpr
      ⟨by decide, ProxyOptions.validate_default, _, _, rfl, rfl, rfl⟩⟩
  have hsignatures : (declaredSignatures adder).map Prod.fst = [("Add" : Text), "Add"] := by
    decide +kernel
  refine ⟨hadder, by decide +kernel, hunique.mpr ⟨by decide +kernel, by decide +kernel⟩, unit,
    hunit, ?_⟩
  rw [(hunits _ _ _ hunit).2, hsignatures]

/-- An interface that declares its property twice and its method twice. -/
def counter : TypeDeclaration where
  scope := "Acme"
  name := "ICounter"
  kind := .interface
  exported := true
  members :=
    [.property "Count" (.named "System.Int32") true false,
      .method "Reset" [] none false,
      .property "Count" (.named "System.Int32") true false,
      .method "Reset" [] none false]

def counterContract : Contract where
  name := "ICounter"
  fullName := "Acme.ICounter"
  members :=
    [.property "Count" (.named "System.Int32") false,
      .method "Reset" [] none,
      .property "Count" (.named "System.Int32") false,
      .method "Reset" [] none]

/-- Neither is refused, and each is wrapped twice by the same lines. -/
theorem not_unique_counter :
    ofType counter = .ok counterContract ∧ ¬ counterContract.propertyNames.Nodup ∧
      ¬ counterContract.signatures.Nodup ∧
      ∃ unit, ProxyTemplate.default.unitFor "Acme.Proxies" counterContract = .ok unit ∧
        unit.members[0]? = unit.members[2]? ∧ unit.members[1]? = unit.members[3]? ∧
        unit.members.length = 4 := by
  refine ⟨by decide +kernel, by decide +kernel, by decide +kernel, _,
    ProxyTemplate.unitFor_eq_ok_iff.mpr
      ⟨by decide, ProxyOptions.validate_default, _, _, rfl, rfl, rfl⟩, rfl, rfl, rfl⟩

end Contract

end ContractProxy
