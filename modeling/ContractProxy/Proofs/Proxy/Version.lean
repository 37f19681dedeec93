import ContractProxy.Proofs.Comparison
import ContractProxy.Proofs.Proxy.Structure

/-!
What the version of the tool changes in a rendered unit: one line of the header, and that is the
line which a comparison leaves out.
-/

set_option autoImplicit false

namespace ContractProxy

namespace ProxyUnit

open ProxyTemplate (headerLines)

def withVersion (unit : ProxyUnit) (version : Text) : ProxyUnit :=
  { unit with header := headerLines version }

def remainder (unit : ProxyUnit) : Text :=
  ({ unit with header := [] } : ProxyUnit).render

theorem render_eq (unit : ProxyUnit) : unit.render = endLines unit.header ++ unit.remainder := by
  have hlines : unit.lines = unit.header ++ ({ unit with header := [] } : ProxyUnit).lines := by
    simp only [lines, List.append_assoc, List.nil_append]
    rfl
  rw [render, hlines, endLines_append]
  rfl

theorem render_withVersion (unit : ProxyUnit) (version : Text) :
    (unit.withVersion version).render =
      endLines ((headerLines []).take 3) ++ ("//     Runtime Version:" ++ version ++ "\n") ++
        (endLines ((headerLines []).drop 4) ++ unit.remainder) := by
  have hheader : headerLines version = (headerLines []).take 3 ++
      ("//     Runtime Version:" ++ version) :: (headerLines []).drop 4 := rfl
  have hline : endLines (("//     Runtime Version:" ++ version) :: (headerLines []).drop 4) =
      "//     Runtime Version:" ++ version ++ "\n" ++ endLines ((headerLines []).drop 4) :=
    List.flatMap_cons
  have hremainder : (unit.withVersion version).remainder = unit.remainder := rfl
  rw [render_eq, hremainder, withVersion, hheader, endLines_append, hline]
  simp only [List.append_assoc]

section

variable (unit : ProxyUnit) {version other : Text}

theorem lines_render_withVersion (hversion : ProxyOptions.isVersion version = true) :
    Text.lines (unit.withVersion version).render =
      headerLines version ++ Text.lines unit.remainder := by
  rw [render_eq]
  exact Text.lines_endLines_append
    (fun _ hl => ProxyTemplate.not_mem_of_mem_headerLines hversion hl) unit.remainder

theorem headerLines_append (version : Text) (more : List Text) :
    headerLines version ++ more = (headerLines [] ++ more).set (Difference.versionLine - 1)
      ("//     Runtime Version:" ++ version) := by
  rw [ProxyTemplate.headerLines_eq_set, List.set_append_left _ _ (by decide)]
  rfl

theorem between_withVersion (hversion : ProxyOptions.isVersion version = true)
    (hother : ProxyOptions.isVersion other = true) :
    Difference.between (unit.withVersion version).render (unit.withVersion other).render =
      none := by
  rw [Difference.between, lines_render_withVersion unit hversion,
    lines_render_withVersion unit hother, headerLines_append, headerLines_append]
  exact Difference.ofLines_set _ _ _

end

end ProxyUnit

namespace ProxyTemplate

def withVersion (template : ProxyTemplate) (version : Text) : ProxyTemplate :=
  { template with options := template.options.withVersion version }

theorem unitFor_withVersion {template : ProxyTemplate} (hoptions : template.options.Sound)
    {version : Text} (hversion : ProxyOptions.isVersion version = true) (scope : Text)
    (contract : Contract) :
    (template.withVersion version).unitFor scope contract =
      (template.unitFor scope contract).map (·.withVersion version) := by
  have hvalid := ProxyOptions.validate_eq_ok_iff.mpr hoptions
  have hother := ProxyOptions.validate_eq_ok_iff.mpr (hoptions.withVersion hversion)
  have hfragment : fragment (template.options.withVersion version) contract.fullName =
      fragment template.options contract.fullName := by
    funext member
    cases member <;> rfl
  unfold unitFor
  simp only [withVersion, hvalid, hother, hfragment]
  split_ifs
  · rfl
  · cases template.naming.className contract.name with
    | error fault => rfl
    | ok className =>
      simp only [Except.mapError, bind, Except.bind]
      cases contract.members.mapM (fragment template.options contract.fullName) <;> rfl

theorem withVersion_of_unitFor {template : ProxyTemplate} {scope : Text} {contract : Contract}
    {unit : ProxyUnit} (hunit : template.unitFor scope contract = .ok unit) :
    unit.withVersion template.options.toolVersion = unit := by
  rw [ProxyUnit.withVersion, ← header_of_unitFor hunit]

theorem between_of_unitFor {template : ProxyTemplate} {scope : Text} {contract : Contract}
    {unit : ProxyUnit} (hunit : template.unitFor scope contract = .ok unit) {version : Text}
    (hversion : ProxyOptions.isVersion version = true) :
    Difference.between (unit.withVersion version).render unit.render = none := by
  have hoptions := ProxyOptions.validate_eq_ok_iff.mp (unitFor_eq_ok_iff.mp hunit).2.1
  have hnone := unit.between_withVersion hversion hoptions.toolVersion
  rwa [withVersion_of_unitFor hunit] at hnone

/-- Two versions of the tool refuse the same contracts for the same reason. Where they do not, they
make the same file but for the end of the fourth line, which each ends with itself, and a comparison
finds no difference. -/
theorem unitFor_versions {template : ProxyTemplate} {version : Text}
    (h : template.options.validate = .ok ())
    (hversion : (template.options.withVersion version).validate = .ok ()) (scope : Text)
    (contract : Contract) :
    (∃ fault, template.unitFor scope contract = .error fault ∧
      (template.withVersion version).unitFor scope contract = .error fault) ∨
    ∃ unit other before after,
      template.unitFor scope contract = .ok unit ∧
      (template.withVersion version).unitFor scope contract = .ok other ∧
      other.fileName = unit.fileName ∧
      before.length = 3 ∧ (∀ line ∈ before, '\n' ∉ line ∧ '\r' ∉ line) ∧
      unit.render = endLines before ++
        ("//     Runtime Version:" ++ template.options.toolVersion ++ "\n") ++ after ∧
      other.render = endLines before ++ ("//     Runtime Version:" ++ version ++ "\n") ++ after ∧
      (Text.lines unit.render)[3]? =
        some ("//     Runtime Version:" ++ template.options.toolVersion) ∧
      (Text.lines other.render)[3]? = some ("//     Runtime Version:" ++ version) ∧
      Difference.between unit.render other.render = none := by
  have hoptions := ProxyOptions.validate_eq_ok_iff.mp h
  have hother : ProxyOptions.isVersion version = true :=
    (ProxyOptions.validate_eq_ok_iff.mp hversion).toolVersion
  rw [unitFor_withVersion hoptions hother]
  cases hunit : template.unitFor scope contract with
  | error fault => exact .inl ⟨fault, rfl, rfl⟩
  | ok unit =>
    have hown := withVersion_of_unitFor hunit
    have hplain : ∀ line ∈ (headerLines []).take 3, '\n' ∉ line ∧ '\r' ∉ line := by
      decide +kernel
    refine .inr ⟨unit, unit.withVersion version, (headerLines []).take 3,
      endLines ((headerLines []).drop 4) ++ unit.remainder, rfl, rfl, rfl, rfl, hplain, ?_, ?_, ?_,
      ?_, ?_⟩
    · rw [← unit.render_withVersion, hown]
    · rw [unit.render_withVersion]
    · rw [← hown, unit.lines_render_withVersion hoptions.toolVersion]
      rfl
    · rw [unit.lines_render_withVersion hother]
      rfl
    · have hnone := unit.between_withVersion hoptions.toolVersion hother
      rwa [hown] at hnone

/-- A contract with a line break in its name. The versions meet on the fourth line all the same. -/
def brokenContract : Contract where
  name := "I\nDepot"
  fullName := "Acme.I\nDepot"
  members := [.property "Count" (.named "System.Int32") false]

theorem unitFor_versions_broken :
    default.options.validate = .ok () ∧
      (default.options.withVersion "9.9.9").validate = .ok () ∧
      ∃ unit other, default.unitFor "Acme" brokenContract = .ok unit ∧
        (default.withVersion "9.9.9").unitFor "Acme" brokenContract = .ok other ∧
        (Text.lines unit.render)[3]? = some ("//     Runtime Version:0.1.0" : Text) ∧
        (Text.lines other.render)[3]? = some ("//     Runtime Version:9.9.9" : Text) ∧
        Difference.between unit.render other.render = none := by
  have hdefault : default.options.validate = .ok () := ProxyOptions.validate_default
  have hversion : (default.options.withVersion "9.9.9").validate = .ok () :=
    ProxyOptions.validate_eq_ok_iff.mpr
      ((ProxyOptions.validate_eq_ok_iff.mp hdefault).withVersion (by decide))
  obtain ⟨made, hmade⟩ : ∃ made, default.unitFor "Acme" brokenContract = .ok made :=
    ⟨_, unitFor_eq_ok_iff.mpr ⟨by decide, hdefault, _, _, rfl, rfl, rfl⟩⟩
  refine ⟨hdefault, hversion, ?_⟩
  rcases unitFor_versions hdefault hversion "Acme" brokenContract with
    ⟨fault, hfault, -⟩ | ⟨unit, other, -, -, hunit, hother, -, -, -, -, -, hlines⟩
  · rw [hmade] at hfault
    cases hfault
  · exact ⟨unit, other, hunit, hother, hlines⟩

end ProxyTemplate

end ContractProxy
