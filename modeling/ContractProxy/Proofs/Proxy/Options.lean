import ContractProxy.Proxy.Options
import Mathlib.Data.List.Basic

/-!
What accepted options are: every type is a name, every member an identifier of its own, and the
version fits on a line. The version matters to no other option.
-/

set_option autoImplicit false

namespace ContractProxy.ProxyOptions

structure Sound (options : ProxyOptions) : Prop where
  baseType : isBaseType options.baseType = true
  facadeType : CSharp.isDottedName options.facadeType = true
  tokenType : CSharp.isDottedName options.tokenType = true
  platformType : CSharp.isDottedName options.platformType = true
  factoryMethod : isMemberName options.factoryMethod = true
  invokeFunc : isMemberName options.invokeFunc = true
  invokeAction : isMemberName options.invokeAction = true
  visibility : options.visibility ∈ visibilities
  toolVersion : isVersion options.toolVersion = true

theorem forall_checks_iff {options : ProxyOptions} :
    (∀ check ∈ options.checks, check.2.2 = true) ↔ Sound options := by
  simp only [checks, List.forall_mem_cons, List.contains_iff_mem]
  constructor
  · intro h
    obtain ⟨hbase, hfacade, htoken, hplatform, hfactory, hfunc, haction, hvisible, hversion, _⟩ := h
    exact ⟨hbase, hfacade, htoken, hplatform, hfactory, hfunc, haction, hvisible, hversion⟩
  · intro h
    exact ⟨h.baseType, h.facadeType, h.tokenType, h.platformType, h.factoryMethod, h.invokeFunc,
      h.invokeAction, h.visibility, h.toolVersion, by simp⟩

theorem validate_eq_ok_iff {options : ProxyOptions} :
    options.validate = .ok () ↔ Sound options := by
  rw [← forall_checks_iff]
  unfold validate
  cases h : options.checks.find? fun check => !check.2.2 with
  | none => simpa [List.find?_eq_none] using h
  | some found =>
    obtain ⟨option, value, valid⟩ := found
    have hfalse : valid = false := by simpa using List.find?_some h
    have hm := List.mem_of_find?_eq_some h
    constructor
    · intro hok
      cases hok
    · intro hall
      rw [hfalse] at hm
      cases hall _ hm

theorem validate_default : default.validate = .ok () := by
  decide +kernel

def withVersion (options : ProxyOptions) (version : Text) : ProxyOptions :=
  { options with toolVersion := version }

theorem Sound.withVersion {options : ProxyOptions} (h : Sound options) {version : Text}
    (hversion : isVersion version = true) : Sound (options.withVersion version) :=
  ⟨h.baseType, h.facadeType, h.tokenType, h.platformType, h.factoryMethod, h.invokeFunc,
    h.invokeAction, h.visibility, hversion⟩

end ContractProxy.ProxyOptions
