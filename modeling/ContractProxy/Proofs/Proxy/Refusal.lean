import ContractProxy.Proofs.Config.Acceptance
import ContractProxy.Proofs.Contract.Acceptance

/-!
Which contracts get no proxy. Under an accepted configuration there are three causes: the name of
the contract does not begin with the marker, nothing follows the marker, or a method has a parameter
that is named like that of the forwarding closures. The name counts before the members.
-/

set_option autoImplicit false

namespace ContractProxy

namespace ClassNaming

/-- The first character of a name is the given letter, in either case. -/
def Begins (letter : Char) (name : Text) : Prop :=
  ∃ first rest, name = first :: rest ∧ Text.lowercaseChar first = Text.lowercaseChar letter

theorem not_begins_nil (letter : Char) : ¬ Begins letter [] := by
  rintro ⟨first, rest, h, _⟩
  cases h

theorem begins_cons {letter first : Char} {rest : Text} :
    Begins letter (first :: rest) ↔ sameLetter first letter = true := by
  simp [Begins, sameLetter]

theorem className_eq_error_iff {rule : ClassNaming} {name : Text} {fault : Fault} :
    rule.className name = .error fault ↔
      ¬ Begins rule.marker name ∧ fault = .missingMarker name rule.marker ∨
        Begins rule.marker name ∧ name.tail = [] ∧ fault = .emptyName name rule.marker := by
  cases name with
  | nil => simp [className, not_begins_nil, eq_comm]
  | cons first rest =>
    rw [className, begins_cons]
    cases hsame : sameLetter first rule.marker <;> cases rest <;> simp [eq_comm]

theorem exists_className_iff {rule : ClassNaming} {name : Text} :
    (∃ className, rule.className name = .ok className) ↔
      Begins rule.marker name ∧ name.tail ≠ [] := by
  cases name with
  | nil => simp [className, not_begins_nil]
  | cons first rest =>
    rw [className, begins_cons]
    cases hsame : sameLetter first rule.marker <;> cases rest <;> simp

/-- A name that does not begin with the marker, or has nothing behind it. -/
def Violates (rule : ClassNaming) (name : Text) : Prop :=
  ¬ Begins rule.marker name ∨ name.tail = []

theorem violates_iff {rule : ClassNaming} {name : Text} :
    rule.Violates name ↔ ∃ fault, rule.className name = .error fault := by
  have hunnamed : (¬ ∃ className, rule.className name = .ok className) ↔ rule.Violates name := by
    rw [exists_className_iff, not_and_or, not_not, Violates]
  rw [← hunnamed, exists_ok_iff]
  simp

instance (rule : ClassNaming) : DecidablePred rule.Violates := fun name =>
  decidable_of_iff ((rule.className name).toOption = none) <| by
    rw [violates_iff]
    cases rule.className name <;> simp [Except.toOption]

end ClassNaming

namespace Contract

open ProxyTemplate (fragment)

inductive TakesClosureName : Member → Prop where
  | method {name : Text} {parameters : List Parameter} {returns : Option TypeRef} {special : Bool}
      {parameter : Parameter} : parameter ∈ parameters → parameter.name = closureName →
      TakesClosureName (.method name parameters returns special)

theorem takesClosureName_method_iff {name : Text} {parameters : List Parameter}
    {returns : Option TypeRef} {special : Bool} :
    TakesClosureName (.method name parameters returns special) ↔
      parameters.any (·.name == closureName) = true := by
  simp only [List.any_eq_true, beq_iff_eq]
  constructor
  · intro h
    cases h with
    | method hm hname => exact ⟨_, hm, hname⟩
  · intro h
    obtain ⟨parameter, hm, hname⟩ := h
    exact .method hm hname

instance : DecidablePred TakesClosureName
  | .method .. => decidable_of_iff _ takesClosureName_method_iff.symm
  | .property .. | .event _ | .field _ | .constructor _ | .nestedType _ =>
    isFalse fun h => nomatch h

section

variable {options : ProxyOptions} {contract : Text}

theorem fragment_eq_error_iff {member : Member} {result : ContractMember}
    (h : ForwardedAs member result) {fault : ProxyFault} :
    fragment options contract result = .error fault ↔
      TakesClosureName member ∧ fault = .closureParameter contract member.name := by
  cases h with
  | property name type readable writable =>
    constructor
    · intro h
      cases h
    · intro h
      cases h.1
  | method name parameters returns special =>
    rw [takesClosureName_method_iff, fragment]
    split_ifs with hany
    · simp [hany, Member.name, eq_comm]
    · simp [hany]

theorem exists_fragment_iff {member : Member} {result : ContractMember}
    (h : ForwardedAs member result) :
    (∃ piece, fragment options contract result = .ok piece) ↔ ¬ TakesClosureName member := by
  rw [exists_ok_iff]
  constructor
  · intro hnone htakes
    exact hnone _ ((fragment_eq_error_iff h).mpr ⟨htakes, rfl⟩)
  · intro hnot fault herror
    exact hnot ((fragment_eq_error_iff h).mp herror).1

theorem mapM_fragment_eq_error_iff {declared : List Member} {members : List ContractMember}
    (h : List.Forall₂ ForwardedAs declared members) {fault : ProxyFault} :
    members.mapM (fragment options contract) = .error fault ↔
      ∃ before member after, declared = before ++ member :: after ∧
        (∀ earlier ∈ before, ¬ TakesClosureName earlier) ∧ TakesClosureName member ∧
        fault = .closureParameter contract member.name := by
  rw [mapM_eq_error_iff]
  constructor
  · intro herror
    obtain ⟨before, result, after, rfl, hbefore, hresult⟩ := herror
    obtain ⟨front, member, back, rfl, hfront, hforwarded⟩ := split_of_forall₂ h
    refine ⟨front, member, back, rfl, ?_, (fragment_eq_error_iff hforwarded).mp hresult⟩
    refine forall_mem_of_forall₂ hfront.flip ?_
    intro earlier hm own hown
    exact (exists_fragment_iff hown).mp (hbefore earlier hm)
  · intro hfirst
    obtain ⟨before, member, after, rfl, hbefore, hmember⟩ := hfirst
    obtain ⟨front, result, back, rfl, hfront, hforwarded⟩ := split_of_forall₂ h.flip
    refine ⟨front, result, back, rfl, ?_, (fragment_eq_error_iff hforwarded).mpr hmember⟩
    refine forall_mem_of_forall₂ hfront.flip ?_
    intro own hm earlier hown
    exact (exists_fragment_iff hown).mpr (hbefore own hm)

end

end Contract

namespace ProxyTemplate

open Contract (properMembers TakesClosureName)

theorem unitFor_of_sound {template : ProxyTemplate} (hoptions : template.options.Sound)
    {scope : Text} (hscope : CSharp.isDottedName scope = true) (contract : Contract) :
    template.unitFor scope contract =
      (template.naming.className contract.name).mapError .naming >>= fun className =>
        contract.members.mapM (fragment template.options contract.fullName) >>= fun members =>
          .ok (template.assembled scope contract className members) := by
  have hvalid := ProxyOptions.validate_eq_ok_iff.mpr hoptions
  simp only [unitFor]
  rw [if_neg (by simp [hscope]), hvalid]
  rfl

/-- Why a type has no proxy under a marker. The first method at fault is reported. -/
inductive Refusal (marker : Char) (type : TypeDeclaration) : ProxyFault → Prop where
  | missingMarker : ¬ ClassNaming.Begins marker type.name →
      Refusal marker type (.naming (.missingMarker type.name marker))
  | emptyName : ClassNaming.Begins marker type.name → type.name.tail = [] →
      Refusal marker type (.naming (.emptyName type.name marker))
  | closureName {before after : List Member} {method : Member} :
      ClassNaming.Begins marker type.name → type.name.tail ≠ [] →
      properMembers type = before ++ method :: after →
      (∀ earlier ∈ before, ¬ TakesClosureName earlier) → TakesClosureName method →
      Refusal marker type (.closureParameter type.fullName method.name)

theorem unitFor_eq_error_iff {template : ProxyTemplate} (hoptions : template.options.Sound)
    {scope : Text} (hscope : CSharp.isDottedName scope = true) {type : TypeDeclaration}
    {contract : Contract} (hcontract : Contract.ofType type = .ok contract) {fault : ProxyFault} :
    template.unitFor scope contract = .error fault ↔
      Refusal template.naming.marker type fault := by
  have hdescribes := (Contract.ofType_eq_ok_iff.mp hcontract).2
  rw [unitFor_of_sound hoptions hscope, bind_eq_error_iff, mapError_eq_error_iff, hdescribes.name,
    hdescribes.fullName]
  constructor
  · intro h
    rcases h with ⟨found, hfound, rfl⟩ | ⟨className, hclass, h⟩
    · rcases ClassNaming.className_eq_error_iff.mp hfound with ⟨hnot, rfl⟩ | ⟨hbegins, hnil, rfl⟩
      · exact .missingMarker hnot
      · exact .emptyName hbegins hnil
    · obtain ⟨hbegins, hrest⟩ := ClassNaming.exists_className_iff.mp
        ⟨className, mapError_eq_ok_iff.mp hclass⟩
      rcases bind_eq_error_iff.mp h with h | ⟨_, _, h⟩
      · obtain ⟨before, method, after, hsplit, hbefore, hmethod, rfl⟩ :=
          (Contract.mapM_fragment_eq_error_iff hdescribes.members).mp h
        exact .closureName hbegins hrest hsplit hbefore hmethod
      · cases h
  · intro h
    cases h with
    | missingMarker hnot =>
      exact .inl ⟨_, ClassNaming.className_eq_error_iff.mpr (.inl ⟨hnot, rfl⟩), rfl⟩
    | emptyName hbegins hnil =>
      exact .inl ⟨_, ClassNaming.className_eq_error_iff.mpr (.inr ⟨hbegins, hnil, rfl⟩), rfl⟩
    | closureName hbegins hrest hsplit hbefore hmethod =>
      obtain ⟨className, hclass⟩ := ClassNaming.exists_className_iff.mpr ⟨hbegins, hrest⟩
      refine .inr ⟨className, mapError_eq_ok_iff.mpr hclass, bind_eq_error_iff.mpr (.inl ?_)⟩
      exact (Contract.mapM_fragment_eq_error_iff hdescribes.members).mpr
        ⟨_, _, _, hsplit, hbefore, hmethod, rfl⟩

theorem forall_not_refusal_iff {marker : Char} {type : TypeDeclaration} :
    (∀ fault, ¬ Refusal marker type fault) ↔
      ClassNaming.Begins marker type.name ∧ type.name.tail ≠ [] ∧
        ∀ member ∈ properMembers type, ¬ TakesClosureName member := by
  constructor
  · intro hnone
    have hbegins : ClassNaming.Begins marker type.name := by
      by_contra hnot
      exact hnone _ (.missingMarker hnot)
    have hrest : type.name.tail ≠ [] := fun hnil => hnone _ (.emptyName hbegins hnil)
    refine ⟨hbegins, hrest, ?_⟩
    intro member hm htakes
    -- The first method at fault is the one that is reported.
    cases hfind : (properMembers type).find? fun member => TakesClosureName member with
    | none =>
      have hnot := List.find?_eq_none.mp hfind member hm
      simp [htakes] at hnot
    | some method =>
      obtain ⟨hmethod, before, after, hsplit, hbefore⟩ := List.find?_eq_some_iff_append.mp hfind
      refine hnone _ (.closureName hbegins hrest hsplit ?_ (by simpa using hmethod))
      intro earlier he
      simpa using hbefore earlier he
  · intro h fault hrefusal
    obtain ⟨hbegins, hrest, hmembers⟩ := h
    cases hrefusal with
    | missingMarker hnot => exact hnot hbegins
    | emptyName _ hnil => exact hrest hnil
    | closureName _ _ hsplit _ hmethod => exact hmembers _ (by simp [hsplit]) hmethod

theorem closureParameter_of_fragment {options : ProxyOptions} {contract : Text}
    {member : ContractMember} {fault : ProxyFault}
    (h : fragment options contract member = .error fault) :
    ∃ method, fault = .closureParameter contract method := by
  cases member with
  | property => cases h
  | method name parameters returns =>
    rw [fragment] at h
    split_ifs at h
    cases h
    exact ⟨name, rfl⟩

theorem unitFor_error_cases {template : ProxyTemplate} {scope : Text} {contract : Contract}
    {fault : ProxyFault} (h : template.unitFor scope contract = .error fault) :
    fault = .invalidNamespace scope ∨
      (∃ found, template.options.validate = .error found ∧ fault = .invalidOption found) ∨
      (∃ found, template.naming.className contract.name = .error found ∧ fault = .naming found) ∨
      ∃ method, fault = .closureParameter contract.fullName method := by
  simp only [unitFor] at h
  by_cases hscope : CSharp.isDottedName scope = true
  · rw [if_neg (by simp [hscope])] at h
    rcases bind_eq_error_iff.mp h with h | ⟨_, _, h⟩
    · obtain ⟨found, hfound, rfl⟩ := mapError_eq_error_iff.mp h
      exact .inr (.inl ⟨found, hfound, rfl⟩)
    rcases bind_eq_error_iff.mp h with h | ⟨_, _, h⟩
    · obtain ⟨found, hfound, rfl⟩ := mapError_eq_error_iff.mp h
      exact .inr (.inr (.inl ⟨found, hfound, rfl⟩))
    rcases bind_eq_error_iff.mp h with h | ⟨_, _, h⟩
    · obtain ⟨_, member, _, _, _, hmember⟩ := mapM_eq_error_iff.mp h
      exact .inr (.inr (.inr (closureParameter_of_fragment hmember)))
    · cases h
  · rw [if_pos (by simpa using hscope)] at h
    cases h
    exact .inl rfl

theorem unitFor_ne_invalidOption {template : ProxyTemplate} (hoptions : template.options.Sound)
    (scope : Text) (contract : Contract) (fault : ProxyOptions.Fault) :
    template.unitFor scope contract ≠ .error (.invalidOption fault) := by
  intro herror
  have hvalid := ProxyOptions.validate_eq_ok_iff.mpr hoptions
  rcases unitFor_error_cases herror with h | ⟨found, hfound, _⟩ | ⟨_, _, h⟩ | ⟨_, h⟩
  · cases h
  · rw [hvalid] at hfound
    cases hfound
  · cases h
  · cases h

theorem className_of_unitFor_naming {template : ProxyTemplate} {scope : Text} {contract : Contract}
    {fault : ClassNaming.Fault} (h : template.unitFor scope contract = .error (.naming fault)) :
    template.naming.className contract.name = .error fault := by
  rcases unitFor_error_cases h with hcause | ⟨_, _, hcause⟩ | ⟨_, hfound, hcause⟩ | ⟨_, hcause⟩
  · cases hcause
  · cases hcause
  · cases hcause
    exact hfound
  · cases hcause

/-- Under an accepted configuration a contract has a proxy exactly if its name goes on behind the
marker and no method takes the name of the closures' parameter. Options are never the cause. -/
theorem unitFor_refusals {bytes : Bytes} {config : Config}
    (hconfig : Config.ofBytes bytes = .ok config) :
    ∃ marker, config.marker = [marker] ∧
      (∀ scope contract fault,
        config.template.unitFor scope contract ≠ .error (.invalidOption fault)) ∧
      ∀ scope, CSharp.isDottedName scope = true → ∀ type contract,
        Contract.ofType type = .ok contract →
          ((∃ unit, config.template.unitFor scope contract = .ok unit) ↔
            ClassNaming.Begins marker type.name ∧ type.name.tail ≠ [] ∧
              ∀ member ∈ properMembers type, ¬ TakesClosureName member) ∧
          ∀ fault, config.template.unitFor scope contract = .error fault ↔
            Refusal marker type fault := by
  have hsound := Config.sound_of_ofBytes hconfig
  obtain ⟨marker, hmarker, _⟩ := Config.isMarker_iff.mp hsound.marker
  have hnaming : config.template.naming.marker = marker := by
    simp [Config.template, Config.naming, hmarker]
  refine ⟨marker, hmarker, unitFor_ne_invalidOption hsound.options, ?_⟩
  intro scope hscope type contract hcontract
  have herror : ∀ fault, config.template.unitFor scope contract = .error fault ↔
      Refusal marker type fault := by
    intro fault
    rw [unitFor_eq_error_iff hsound.options hscope hcontract, hnaming]
  refine ⟨?_, herror⟩
  rw [exists_ok_iff, ← forall_not_refusal_iff]
  simp only [ne_eq, herror]

def markerSettings : Text :=
  endLines (List.map String.toList ["[naming]", "marker = \"c\""])

def markerConfig : Config :=
  { Config.default with marker := ['c'] }

theorem ofBytes_markerSettings :
    Config.ofBytes (Text.utf8 markerSettings) = .ok markerConfig :=
  Config.ofBytes_utf8 (by decide +kernel) (by decide +kernel) (by decide +kernel)

def accessorMethod : Member :=
  .method "set_Level" [⟨"_", .named "System.Int32"⟩] none true

def blendMethod : Member :=
  .method "Blend" [⟨"ratio", .named "System.Double"⟩, ⟨"_", .named "System.Int32"⟩] none false

/-- An interface with an accessor and a method that both take the name of the closures'
parameter. -/
def mixer : TypeDeclaration where
  scope := "Acme"
  name := "CMixer"
  kind := .interface
  exported := true
  members := [accessorMethod, .property "Level" (.named "System.Int32") true true, blendMethod]

def mixerContract : Contract where
  name := "CMixer"
  fullName := "Acme.CMixer"
  members :=
    [.property "Level" (.named "System.Int32") true,
      .method "Blend" [⟨"ratio", .named "System.Double"⟩, ⟨"_", .named "System.Int32"⟩] none]

theorem ofType_mixer : Contract.ofType mixer = .ok mixerContract := by
  decide

theorem unitFor_refusals_mixer :
    Config.ofBytes (Text.utf8 markerSettings) = .ok markerConfig ∧
      CSharp.isDottedName "Acme.Proxies" = true ∧ Contract.ofType mixer = .ok mixerContract ∧
      markerConfig.template.unitFor "Acme.Proxies" mixerContract =
        .error (.closureParameter "Acme.CMixer" "Blend") := by
  have hscope : CSharp.isDottedName "Acme.Proxies" = true := by decide
  obtain ⟨marker, hmarker, _, hresult⟩ := unitFor_refusals ofBytes_markerSettings
  obtain ⟨_, herror⟩ := hresult _ hscope mixer mixerContract ofType_mixer
  obtain rfl : 'c' = marker := by simpa [markerConfig] using hmarker
  have hproper : properMembers mixer =
      [.property "Level" (.named "System.Int32") true true] ++ blendMethod :: [] := by
    decide
  have hrefusal : Refusal 'c' mixer (.closureParameter mixer.fullName blendMethod.name) :=
    .closureName ⟨'C', "Mixer", rfl, by decide⟩ (by decide) hproper (by decide +kernel)
      (by decide)
  exact ⟨ofBytes_markerSettings, hscope, ofType_mixer, (herror _).mpr hrefusal⟩

end ProxyTemplate

end ContractProxy
