import ContractProxy.Config.Document
import ContractProxy.Proofs.FirstFault
import ContractProxy.Proofs.Proxy.Options

/-!
What an accepted configuration gives to the template: options that pass their checks, a marker that
is one letter and a lead that is an identifier.
-/

set_option autoImplicit false

namespace ContractProxy.Config

/-- The parts of a configuration that reach a template or a batch, when they are in order. -/
structure Sound (config : Config) : Prop where
  scope : ∀ scope ∈ config.scope, CSharp.isDottedName scope = true
  options : config.options.Sound
  marker : isMarker config.marker = true
  lead : CSharp.isIdentifier config.lead = true

theorem options_of_checkOptions {options : ProxyOptions} (h : checkOptions options = .ok ()) :
    options.Sound := by
  unfold checkOptions at h
  split at h
  · cases h
  · split at h
    · cases h
    · exact ProxyOptions.validate_eq_ok_iff.mp (mapError_eq_ok_iff.mp h)

theorem isMarker_iff {marker : Text} :
    isMarker marker = true ↔ ∃ letter, marker = [letter] ∧ letter.isAlpha = true := by
  unfold isMarker
  split
  · simp
  · rename_i hne
    constructor
    · intro h
      cases h
    · intro h
      obtain ⟨letter, rfl, _⟩ := h
      exact absurd rfl (hne letter)

theorem checkNaming_eq_ok_iff {marker lead : Text} :
    checkNaming marker lead = .ok () ↔
      isMarker marker = true ∧ CSharp.isIdentifier lead = true := by
  cases hmarker : isMarker marker <;> cases hlead : CSharp.isIdentifier lead <;>
    simp [checkNaming, hmarker, hlead]

theorem checkScope_eq_ok_iff {scope : Option Text} :
    checkScope scope = .ok () ↔ ∀ name ∈ scope, CSharp.isDottedName name = true := by
  cases scope with
  | none => simp [checkScope]
  | some name =>
    rw [checkScope]
    split_ifs with h <;> simp [h]

theorem sound_of_validate {config : Config} (h : config.validate = .ok ()) : config.Sound := by
  obtain ⟨hscope, h⟩ := then_eq_ok_iff.mp h
  obtain ⟨_, h⟩ := then_eq_ok_iff.mp h
  obtain ⟨hoptions, h⟩ := then_eq_ok_iff.mp h
  obtain ⟨hnaming, _⟩ := then_eq_ok_iff.mp h
  obtain ⟨hmarker, hlead⟩ := checkNaming_eq_ok_iff.mp hnaming
  exact ⟨checkScope_eq_ok_iff.mp hscope, options_of_checkOptions hoptions, hmarker, hlead⟩

theorem validate_default : default.validate = .ok () := by
  decide +kernel

theorem ofBytes_eq_ok {bytes : Bytes} {config : Config} (h : ofBytes bytes = .ok config) :
    bytes.length ≤ sizeLimit ∧
      ∃ t, bytes = Text.utf8 t ∧ ofText t = .ok config ∧ config.validate = .ok () := by
  unfold ofBytes at h
  split_ifs at h with hsize
  split at h
  · cases h
  · rename_i t ht
    obtain ⟨parsed, hparsed, h⟩ := bind_eq_ok_iff.mp h
    obtain ⟨hvalid, h⟩ := then_eq_ok_iff.mp h
    cases h
    exact ⟨Nat.not_lt.mp hsize, t, Text.eq_utf8_of_ofUtf8? ht, mapError_eq_ok_iff.mp hparsed,
      mapError_eq_ok_iff.mp hvalid⟩

theorem ofBytes_utf8 {t : Text} {config : Config} (hsize : (Text.utf8 t).length ≤ sizeLimit)
    (ht : ofText t = .ok config) (hvalid : config.validate = .ok ()) :
    ofBytes (Text.utf8 t) = .ok config := by
  rw [ofBytes, if_neg (Nat.not_lt.mpr hsize), Text.ofUtf8?_utf8]
  simp [ht, hvalid, Except.mapError, bind, Except.bind]

theorem sound_of_ofBytes {bytes : Bytes} {config : Config} (h : ofBytes bytes = .ok config) :
    config.Sound := by
  obtain ⟨_, _, _, _, hvalid⟩ := ofBytes_eq_ok h
  exact sound_of_validate hvalid

end ContractProxy.Config
