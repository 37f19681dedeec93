import ContractProxy.Proofs.FirstFault
import ContractProxy.Proxy.Unit

/-!
What a rendered unit holds. It has one fragment for each member of the contract, in the order of the
contract, with the name of the member and its kind.
-/

set_option autoImplicit false

namespace ContractProxy.ProxyTemplate

theorem fragment_eq_ok {options : ProxyOptions} {contract : Text} {member : ContractMember}
    {piece : Fragment} (h : fragment options contract member = .ok piece) :
    piece.name = member.name ∧ piece.isMethod = member.isMethod := by
  cases member with
  | property name type writable =>
    simp only [fragment, Except.ok.injEq] at h
    subst h
    exact ⟨rfl, rfl⟩
  | method name parameters returns =>
    simp only [fragment] at h
    by_cases hclosure : parameters.any (·.name == closureName) = true
    · rw [if_pos hclosure] at h
      cases h
    · rw [if_neg hclosure] at h
      cases h
      exact ⟨rfl, rfl⟩

def assembled (template : ProxyTemplate) (scope : Text) (contract : Contract) (className : Text)
    (members : List Fragment) : ProxyUnit where
  header := headerLines template.options.toolVersion
  scope := scope
  className := className
  contract := contract.fullName
  declaration := declarationLine template.options className contract.fullName
  constructor := constructorLines template.options className
  factory := factoryLines template.options className contract.fullName
  members := members

theorem unitFor_eq_ok_iff {template : ProxyTemplate} {scope : Text} {contract : Contract}
    {unit : ProxyUnit} :
    template.unitFor scope contract = .ok unit ↔
      CSharp.isDottedName scope = true ∧ template.options.validate = .ok () ∧
        ∃ className members, template.naming.className contract.name = .ok className ∧
          contract.members.mapM (fragment template.options contract.fullName) = .ok members ∧
          template.assembled scope contract className members = unit := by
  simp only [unitFor]
  by_cases hscope : CSharp.isDottedName scope = true
  · rw [if_neg (by simp [hscope])]
    constructor
    · intro h
      obtain ⟨_, hoptions, h⟩ := bind_eq_ok_iff.mp h
      obtain ⟨className, hname, h⟩ := bind_eq_ok_iff.mp h
      obtain ⟨members, hmembers, h⟩ := bind_eq_ok_iff.mp h
      exact ⟨hscope, mapError_eq_ok_iff.mp hoptions, className, members,
        mapError_eq_ok_iff.mp hname, hmembers, Except.ok.inj h⟩
    · intro h
      obtain ⟨_, hoptions, className, members, hname, hmembers, rfl⟩ := h
      refine bind_eq_ok_iff.mpr ⟨(), mapError_eq_ok_iff.mpr hoptions, ?_⟩
      refine bind_eq_ok_iff.mpr ⟨className, mapError_eq_ok_iff.mpr hname, ?_⟩
      exact bind_eq_ok_iff.mpr ⟨members, hmembers, rfl⟩
  · rw [if_pos (by simpa using hscope)]
    constructor
    · intro h
      cases h
    · intro h
      exact absurd h.1 hscope

theorem mapM_fragment_of_unitFor {template : ProxyTemplate} {scope : Text} {contract : Contract}
    {unit : ProxyUnit} (h : template.unitFor scope contract = .ok unit) :
    contract.members.mapM (fragment template.options contract.fullName) = .ok unit.members := by
  obtain ⟨_, _, _, members, _, hmembers, rfl⟩ := unitFor_eq_ok_iff.mp h
  exact hmembers

theorem members_of_unitFor {template : ProxyTemplate} {scope : Text} {contract : Contract}
    {unit : ProxyUnit} (h : template.unitFor scope contract = .ok unit) :
    unit.members.map (fun piece => (piece.name, piece.isMethod)) =
      contract.members.map fun member => (member.name, member.isMethod) := by
  symm
  refine map_eq_map_of_forall₂ (mapM_eq_ok_iff.mp (mapM_fragment_of_unitFor h)) ?_
  intro member piece hpiece
  obtain ⟨hname, hkind⟩ := fragment_eq_ok hpiece
  rw [hname, hkind]

end ContractProxy.ProxyTemplate
