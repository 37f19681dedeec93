import ContractProxy.Proofs.Config.Acceptance
import ContractProxy.Proofs.Toml.Key

/-!
Loading a configuration is closed. What is accepted spells no keys other than the declared sections
and their fields, and what it hands to the template has passed every check on the way.
-/

set_option autoImplicit false

namespace ContractProxy.Config

theorem text_of_asText {value : Toml} {content : Text} (h : asText value = .ok content) :
    value = .text content := by
  cases value <;> cases h
  rfl

theorem known_of_readEntries {known : List Text} {entries : Toml.Entries} {texts : SectionTexts}
    (h : readEntries known entries = .ok texts) :
    ∀ entry ∈ entries, entry.1 ∈ known ∧ ∃ content, entry.2 = .text content := by
  induction entries generalizing texts with
  | nil => simp
  | cons entry rest ih =>
    obtain ⟨key, value⟩ := entry
    rw [readEntries] at h
    split_ifs at h with hknown
    obtain ⟨content, hcontent, h⟩ := bind_eq_ok_iff.mp h
    obtain ⟨others, hothers, _⟩ := bind_eq_ok_iff.mp h
    rw [List.forall_mem_cons]
    exact ⟨⟨by simpa using hknown, content, text_of_asText hcontent⟩, ih hothers⟩

/-- A section that is a table holds declared fields only, and they are texts. -/
def HoldsFields (fields : List Text) (value : Toml) : Prop :=
  ∀ origin entries, value = .table origin entries →
    ∀ entry ∈ entries, entry.1 ∈ fields ∧ ∃ content, entry.2 = .text content

def HoldsSections (entries : Toml.Entries) : Prop :=
  ∀ entry ∈ entries, ∃ fields, (entry.1, fields) ∈ sections ∧ HoldsFields fields entry.2

theorem holdsFields_of_readSection {known : List Text} {value : Toml} {texts : SectionTexts}
    (h : readSection known value = .ok texts) : HoldsFields known value := by
  rintro origin entries rfl
  exact known_of_readEntries h

theorem holdsSections_of_readSections {config final : Config} {entries : Toml.Entries}
    (h : readSections config entries = .ok final) : HoldsSections entries := by
  induction entries generalizing config with
  | nil => simp [HoldsSections]
  | cons entry rest ih =>
    obtain ⟨name, value⟩ := entry
    rw [readSections] at h
    split at h
    · rename_i known hknown
      obtain ⟨texts, htexts, h⟩ := bind_eq_ok_iff.mp h
      rw [HoldsSections, List.forall_mem_cons]
      exact ⟨⟨known, Keyed.mem_of_lookup hknown, holdsFields_of_readSection htexts⟩, ih h⟩
    · cases h

theorem rest_of_holds {fields : List Text} {origin : Toml.Origin} {entries : Toml.Entries}
    {rest : Toml.Key} (hfields : HoldsFields fields (.table origin entries))
    (h : Toml.Holds (.table origin entries) rest) :
    rest = [] ∨ ∃ field ∈ fields, rest = [field] := by
  cases h with
  | here => exact .inl rfl
  | entry hlookup hrest =>
    obtain ⟨hfield, content, hcontent⟩ := hfields _ _ rfl _ (Keyed.mem_of_lookup hlookup)
    cases hcontent
    cases hrest
    exact .inr ⟨_, hfield, rfl⟩

theorem toolVersion_withSection (config : Config) (name : Text) (texts : SectionTexts) :
    (config.withSection name texts).options.toolVersion = config.options.toolVersion := by
  rw [withSection]
  split_ifs <;> rfl

theorem toolVersion_of_readSections {config final : Config} {entries : Toml.Entries}
    (h : readSections config entries = .ok final) :
    final.options.toolVersion = config.options.toolVersion := by
  induction entries generalizing config with
  | nil =>
    cases h
    rfl
  | cons entry rest ih =>
    obtain ⟨name, value⟩ := entry
    rw [readSections] at h
    split at h
    · obtain ⟨texts, _, h⟩ := bind_eq_ok_iff.mp h
      rw [ih h, toolVersion_withSection]
    · cases h

theorem ofText_eq_ok {t : Text} {config : Config} (h : ofText t = .ok config) :
    ∃ origin entries, Toml.ofText? t = some (.table origin entries) ∧
      readSections default entries = .ok config := by
  unfold ofText at h
  split at h
  · rename_i origin entries hdocument
    exact ⟨origin, entries, hdocument, h⟩
  · cases h

/-- What is accepted is text of limited size. Its keys are declared sections and, in a section that
is a table, declared fields, whichever way they are spelled. The template gets the names, the lead
and the marker as they were accepted, and these are valid. -/
theorem ofBytes_closed {bytes : Bytes} {config : Config} (h : ofBytes bytes = .ok config) :
    bytes.length ≤ sizeLimit ∧
      (∃ t spelled origin entries, bytes = Text.utf8 t ∧ Toml.statementsOf? t = some spelled ∧
        Toml.ofText? t = some (.table origin entries) ∧ HoldsSections entries ∧
        ∀ name rest, Toml.Spells [] spelled (name :: rest) →
          ∃ fields, (name, fields) ∈ sections ∧
            ∀ origin' below, entries.lookup name = some (.table origin' below) →
              rest = [] ∨ ∃ field ∈ fields, rest = [field]) ∧
      (∀ scope ∈ config.scope, CSharp.isDottedName scope = true) ∧
      CSharp.isIdentifier config.lead = true ∧
      config.options.validate = .ok () ∧
      ∃ letter, config.marker = [letter] ∧ letter.isAlpha = true ∧
        config.template =
          ⟨config.options.withVersion ProxyOptions.toolVersionText, ⟨letter, config.lead⟩⟩ := by
  have hsound := sound_of_ofBytes h
  obtain ⟨hsize, t, hbytes, ht, _⟩ := ofBytes_eq_ok h
  obtain ⟨origin, entries, hdocument, hread⟩ := ofText_eq_ok ht
  obtain ⟨spelled, hspelled, hholds⟩ := Toml.holds_of_ofText? hdocument
  have hsections := holdsSections_of_readSections hread
  obtain ⟨letter, hmarker, halpha⟩ := isMarker_iff.mp hsound.marker
  refine ⟨hsize, ⟨t, spelled, origin, entries, hbytes, hspelled, hdocument, hsections, ?_⟩,
    hsound.scope, hsound.lead, ProxyOptions.validate_eq_ok_iff.mpr hsound.options, letter, hmarker,
    halpha, ?_⟩
  · intro name rest hkey
    cases hholds _ hkey with
    | entry hlookup hrest =>
      obtain ⟨fields, hname, hfields⟩ := hsections _ (Keyed.mem_of_lookup hlookup)
      refine ⟨fields, hname, ?_⟩
      intro origin' below htable
      rw [hlookup] at htable
      cases htable
      exact rest_of_holds hfields hrest
  · have hversion : config.options.toolVersion = ProxyOptions.toolVersionText :=
      toolVersion_of_readSections hread
    simp [template, naming, hmarker, ProxyOptions.withVersion, ← hversion]

def mixedSettings : Text :=
  endLines (List.map String.toList
    ["generator.namespace = \"Acme.Proxies\"",
     "generator.\"factory_method\" = \"Create\"",
     "output = \x7b target_folder = \"generated\" \x7d",
     "",
     "[naming]",
     "marker = \"c\""])

def mixedConfig : Config :=
  { default with
    scope := some "Acme.Proxies"
    options := { ProxyOptions.default with factoryMethod := "Create" }
    marker := ['c']
    targetFolder := some "generated" }

theorem ofBytes_closed_mixed :
    ofBytes (Text.utf8 mixedSettings) = .ok mixedConfig ∧
      (Text.utf8 mixedSettings).length ≤ sizeLimit ∧
      mixedConfig.options.validate = .ok () ∧
      ∃ letter, ['c'] = [letter] ∧ letter.isAlpha = true ∧
        mixedConfig.template = ⟨mixedConfig.options, ⟨letter, "Restartable"⟩⟩ := by
  have hmixed : ofBytes (Text.utf8 mixedSettings) = .ok mixedConfig := by decide +kernel
  obtain ⟨hsize, _, _, _, hvalid, hletter⟩ := ofBytes_closed hmixed
  exact ⟨hmixed, hsize, hvalid, hletter⟩

end ContractProxy.Config
