import ContractProxy.Proofs.CSharp.Word
import ContractProxy.Proofs.Config.Acceptance
import ContractProxy.Proofs.Contract.Acceptance

/-!
The names that a unit writes for its class and for its contract, as a reader finds them in the
lines. Both are made of identifiers. Neither is escaped, so a reserved word can come out: for the
class where the lead of an accepted configuration begins such a word, for the contract where its own
name is one.
-/

set_option autoImplicit false

namespace ContractProxy

open CSharp (words wordAfter separatesWords wordAfter_of_words)
open Text (fields fields_around fields_append_of_head fields_append_of_last)

namespace CSharp

theorem isIdentifier_append {lead rest : Text} (h : isIdentifier lead = true)
    (hrest : ∀ c ∈ rest, continuesIdentifier c = true) : isIdentifier (lead ++ rest) = true := by
  cases lead with
  | nil => cases h
  | cons first others =>
    have hparts : startsIdentifier first = true ∧ others.all continuesIdentifier = true := by
      simpa [isIdentifier] using h
    have hall : rest.all continuesIdentifier = true := List.all_eq_true.mpr hrest
    simp [isIdentifier, hparts, hall]

theorem isKeyword_iff {name : Text} : isKeyword name = true ↔ name ∈ keywords :=
  List.contains_iff_mem

theorem isIdentifier_of_mem_keywords : ∀ word ∈ keywords, isIdentifier word = true := by
  decide +kernel

theorem startsIdentifier_of_isAlpha {c : Char} (h : c.isAlpha = true) :
    startsIdentifier c = true := by
  have hletter : (decide ('A' ≤ c ∧ c ≤ 'Z') || (decide ('a' ≤ c) && decide (c ≤ 'z'))) = true := h
  have hrange : 'A' ≤ c ∧ c ≤ 'Z' ∨ 'a' ≤ c ∧ c ≤ 'z' := by
    simpa using hletter
  have hascii : c.toNat < 128 := by
    rcases hrange with ⟨_, hz⟩ | ⟨_, hz⟩
    · exact Nat.lt_of_le_of_lt (UInt32.le_iff_toNat_le.mp hz) (by decide)
    · exact Nat.lt_of_le_of_lt (UInt32.le_iff_toNat_le.mp hz) (by decide)
  have hall : ∀ n : Fin 128, (Char.ofNat n).isAlpha = true →
      startsIdentifier (Char.ofNat n) = true := by
    decide +kernel
  have hc := hall ⟨c.toNat, hascii⟩
  rw [Char.ofNat_toNat] at hc
  exact hc h

/-- Some reserved word begins with the lead and is longer. -/
def OpensKeyword (lead : Text) : Prop :=
  ∃ word ∈ keywords, lead <+: word ∧ lead ≠ word

instance (lead : Text) : Decidable (OpensKeyword lead) :=
  inferInstanceAs (Decidable (∃ word ∈ keywords, lead <+: word ∧ lead ≠ word))

theorem opensKeyword_iff {lead : Text} :
    OpensKeyword lead ↔ ∃ rest, rest ≠ [] ∧ lead ++ rest ∈ keywords := by
  constructor
  · intro h
    obtain ⟨word, hword, ⟨rest, rfl⟩, hne⟩ := h
    refine ⟨rest, ?_, hword⟩
    intro hnil
    simp [hnil] at hne
  · intro h
    obtain ⟨rest, hrest, hword⟩ := h
    exact ⟨lead ++ rest, hword, List.prefix_append lead rest, by simpa using hrest⟩

/-- An identifier as source text has it: one that is not reserved, or any one behind an at sign. -/
def isSourceIdentifier : Text → Bool
  | '@' :: name => isIdentifier name
  | name => isIdentifier name && !isKeyword name

def isSourceName (name : Text) : Bool :=
  (name.splitOn '.').all isSourceIdentifier

theorem isSourceIdentifier_eq {name : Text} (h : isIdentifier name = true) :
    isSourceIdentifier name = !isKeyword name := by
  have hat : continuesIdentifier '@' = false := by decide
  cases name with
  | nil => cases h
  | cons first rest =>
    have hne : first ≠ '@' := by
      rintro rfl
      have hcont := continuesIdentifier_of_mem h List.mem_cons_self
      rw [hat] at hcont
      cases hcont
    rw [isSourceIdentifier, h, Bool.true_and]
    intro name hat
    exact hne (List.cons.inj hat).1

end CSharp

namespace TypeDeclaration

theorem splitOn_fullName {type : TypeDeclaration} (hnamed : CSharp.isIdentifier type.name = true)
    (hplaced : type.scope = [] ∨ CSharp.isDottedName type.scope = true) :
    ∃ qualifiers, type.fullName.splitOn '.' = qualifiers ++ [type.name] ∧
      ∀ qualifier ∈ qualifiers, CSharp.isIdentifier qualifier = true ∧
        CSharp.isKeyword qualifier = false := by
  have hdot : CSharp.continuesIdentifier '.' = false := by decide
  have hname : '.' ∉ type.name := by
    intro hm
    rw [CSharp.continuesIdentifier_of_mem hnamed hm] at hdot
    cases hdot
  by_cases hempty : type.scope = []
  · refine ⟨[], ?_, by simp⟩
    rw [fullName, if_pos (by simpa using hempty), List.splitOn_eq_singleton hname, List.nil_append]
  · have hdotted := hplaced.resolve_left hempty
    refine ⟨type.scope.splitOn '.', ?_, ?_⟩
    · have hfull : type.fullName = type.scope ++ '.' :: type.name := by
        rw [fullName, if_neg (by simpa using hempty), List.append_assoc]
        rfl
      rw [hfull, List.splitOn_append_cons_self, List.splitOn_eq_singleton hname]
    · intro qualifier hq
      simpa using List.all_eq_true.mp hdotted qualifier hq

end TypeDeclaration

namespace ProxyUnit

/-- The name of the class behind `class`, at the head of the constructor and in the body of the
factory. -/
def classNames (unit : ProxyUnit) : List (Option Text) :=
  [wordAfter "class" unit.declaration, unit.constructor[0]?.bind (wordAfter "public"),
    unit.factory[2]?.bind (wordAfter "new")]

/-- The name of the contract as the last type that the class derives from, as the argument of the
type before it and as the type that the factory gives. -/
def contractNames (unit : ProxyUnit) : List (Option Text) :=
  let declared := words unit.declaration
  [declared.getLast?, declared.dropLast.getLast?, unit.factory[0]?.bind (wordAfter "static")]

end ProxyUnit

namespace ProxyTemplate

section

variable (options : ProxyOptions) (className contract : Text)

theorem words_declarationLine :
    words (declarationLine options className contract) =
      words options.visibility ++ [("sealed" : Text), "class"] ++ words className ++
        words (options.baseTypeOf contract) ++ words contract := by
  unfold words
  have hindent : fields separatesWords (indent 1) = [] := rfl
  have hkind : fields separatesWords " sealed class " = [("sealed" : Text), "class"] := by decide
  have hcolon : fields separatesWords " : " = [] := rfl
  have hcomma : fields separatesWords ", " = [] := rfl
  rw [declarationLine, fields_around rfl rfl, fields_around rfl rfl, fields_around rfl rfl,
    fields_append_of_last rfl, hindent, hkind, hcolon, hcomma]
  simp

theorem wordAfter_constructor (h : words className = [className]) :
    (constructorLines options className)[0]?.bind (wordAfter "public") = some className := by
  unfold words at h
  have hpublic : fields separatesWords (indent 2 ++ "public ") = [("public" : Text)] := by decide
  have hline : words (indent 2 ++ "public " ++ className ++ "(" ++ parameterList options ++
      ") : ") = [] ++ ("public" : Text) :: className :: words (parameterList options ++ ") : ") := by
    rw [words, List.append_assoc _ (parameterList options), fields_around rfl rfl,
      fields_append_of_last rfl, hpublic, h]
    rfl
  exact wordAfter_of_words hline (by simp)

theorem wordAfter_factoryBody (h : words className = [className]) :
    (factoryLines options className contract)[2]?.bind (wordAfter "new") = some className := by
  unfold words at h
  have hreturn : fields separatesWords (indent 3 ++ "return new ") =
      [("return" : Text), "new"] := by
    decide
  have hline : words (indent 3 ++ "return new " ++ className ++ "(" ++ constructionNames ++ ");") =
      [("return" : Text)] ++ ("new" : Text) :: className :: words (constructionNames ++ ");") := by
    rw [words, List.append_assoc _ constructionNames, fields_around rfl rfl,
      fields_append_of_last rfl, hreturn, h]
    rfl
  exact wordAfter_of_words hline (by decide)

theorem wordAfter_factoryHead (h : words contract = [contract]) :
    (factoryLines options className contract)[0]?.bind (wordAfter "static") = some contract := by
  unfold words at h
  let rest := options.factoryMethod ++ "(" ++ parameterList options ++ ")"
  have hstatic : fields separatesWords (indent 2 ++ "public static ") =
      [("public" : Text), "static"] := by
    decide
  have hline : words (indent 2 ++ "public static " ++ contract ++ " " ++ rest) =
      [("public" : Text)] ++ ("static" : Text) :: contract :: words rest := by
    rw [words, fields_around rfl rfl, fields_append_of_last rfl, hstatic, h]
    rfl
  have hword := wordAfter_of_words hline (by decide)
  simpa [factoryLines, rest] using hword

end

end ProxyTemplate

theorem ClassNaming.className_eq_ok_iff {rule : ClassNaming} {name className : Text} :
    rule.className name = .ok className ↔
      ∃ first rest, name = first :: rest ∧ sameLetter first rule.marker = true ∧ rest ≠ [] ∧
        rule.lead ++ rest = className := by
  cases name with
  | nil => simp [ClassNaming.className]
  | cons first rest =>
    rw [ClassNaming.className]
    cases hsame : sameLetter first rule.marker <;> cases rest <;> simp [hsame]

theorem ClassNaming.isIdentifier_className {rule : ClassNaming}
    (hlead : CSharp.isIdentifier rule.lead = true) {type : TypeDeclaration} {contract : Contract}
    (hcontract : Contract.ofType type = .ok contract) {className : Text}
    (h : rule.className contract.name = .ok className) : CSharp.isIdentifier className = true := by
  obtain ⟨hacceptable, hdescribes⟩ := Contract.ofType_eq_ok_iff.mp hcontract
  obtain ⟨first, rest, hname, _, _, rfl⟩ := className_eq_ok_iff.mp h
  refine CSharp.isIdentifier_append hlead ?_
  intro c hc
  have hnamed := hacceptable.header.named
  rw [← hdescribes.name, hname] at hnamed
  exact CSharp.continuesIdentifier_of_mem hnamed (List.mem_cons_of_mem first hc)

namespace Config

theorem isIdentifier_className {config : Config} (hsound : config.Sound) {type : TypeDeclaration}
    {contract : Contract} (hcontract : Contract.ofType type = .ok contract) {className : Text}
    (h : config.naming.className contract.name = .ok className) :
    CSharp.isIdentifier className = true :=
  ClassNaming.isIdentifier_className hsound.lead hcontract h

end Config

theorem ProxyTemplate.classNames_eq {template : ProxyTemplate} {scope : Text} {contract : Contract}
    {unit : ProxyUnit} (hunit : template.unitFor scope contract = .ok unit)
    (hclass : words unit.className = [unit.className]) :
    unit.classNames = List.replicate 3 (some unit.className) := by
  obtain ⟨_, hvalid, className, members, _, _, rfl⟩ := unitFor_eq_ok_iff.mp hunit
  have hoptions := ProxyOptions.validate_eq_ok_iff.mp hvalid
  have hwords : words className = [className] := hclass
  have hvisible : ∀ visibility ∈ ProxyOptions.visibilities,
      words visibility = [visibility] ∧ ("class" : Text) ∉ [visibility, ("sealed" : Text)] := by
    decide
  obtain ⟨hone, hother⟩ := hvisible _ hoptions.visibility
  have hdeclared : words (declarationLine template.options className contract.fullName) =
      [template.options.visibility, ("sealed" : Text)] ++ ("class" : Text) :: className ::
        (words (template.options.baseTypeOf contract.fullName) ++ words contract.fullName) := by
    rw [words_declarationLine, hone, hwords]
    simp
  have hdeclaration := wordAfter_of_words hdeclared hother
  show [_, _, _] = [_, _, _]
  simp only [assembled]
  rw [hdeclaration, wordAfter_constructor _ _ hwords, wordAfter_factoryBody _ _ _ hwords]

theorem ProxyTemplate.unitFor_memberless {naming : ClassNaming}
    {scope name fullName className : Text} (hscope : CSharp.isDottedName scope = true)
    (hclass : naming.className name = .ok className) :
    (⟨.default, naming⟩ : ProxyTemplate).unitFor scope ⟨name, fullName, []⟩ =
      .ok (assembled ⟨.default, naming⟩ scope ⟨name, fullName, []⟩ className []) :=
  unitFor_eq_ok_iff.mpr ⟨hscope, ProxyOptions.validate_default, className, [], hclass, rfl, rfl⟩

namespace Config

def markedType (marker : Char) (rest : Text) : TypeDeclaration where
  scope := []
  name := marker :: rest
  kind := .interface
  exported := true
  members := []

theorem ofType_markedType {marker : Char} {rest : Text}
    (h : CSharp.isIdentifier (marker :: rest) = true) :
    Contract.ofType (markedType marker rest) = .ok ⟨marker :: rest, marker :: rest, []⟩ := by
  have hback : CSharp.continuesIdentifier '\x60' = false := by decide
  have hgeneric : '\x60' ∉ marker :: rest := by
    intro hm
    rw [CSharp.continuesIdentifier_of_mem h hm] at hback
    cases hback
  refine Contract.ofType_eq_ok_iff.mpr ⟨⟨⟨rfl, rfl, hgeneric, h, .inl rfl⟩, ?_⟩, rfl, rfl, ?_⟩
  · intro member hm
    cases hm
  · exact .nil

/-- A class name under an accepted configuration is an identifier, and it is what the unit writes in
its three places. Which contract comes out as a reserved word is a matter of the lead: there is one
exactly if the lead begins such a word. -/
theorem classNames_of_ofBytes {bytes : Bytes} {config : Config}
    (hconfig : ofBytes bytes = .ok config) :
    (∀ type contract className, Contract.ofType type = .ok contract →
      config.naming.className contract.name = .ok className →
        CSharp.isIdentifier className = true ∧
        ∀ scope unit, config.template.unitFor scope contract = .ok unit →
          unit.classNames = List.replicate 3 (some className)) ∧
    ((∃ type contract className, Contract.ofType type = .ok contract ∧
      config.naming.className contract.name = .ok className ∧
        CSharp.isKeyword className = true) ↔ CSharp.OpensKeyword config.lead) := by
  have hsound := sound_of_ofBytes hconfig
  refine ⟨?_, ?_, ?_⟩
  · intro type contract className hcontract hclass
    have hnamed := isIdentifier_className hsound hcontract hclass
    refine ⟨hnamed, ?_⟩
    intro scope unit hunit
    have hsame : unit.className = className := by
      obtain ⟨_, _, found, _, hfound, _, rfl⟩ := ProxyTemplate.unitFor_eq_ok_iff.mp hunit
      exact Except.ok.inj (hfound.symm.trans hclass)
    rw [← hsame] at hnamed ⊢
    exact ProxyTemplate.classNames_eq hunit (CSharp.words_of_isIdentifier hnamed)
  · intro h
    obtain ⟨type, contract, className, _, hclass, hkeyword⟩ := h
    obtain ⟨_, rest, _, _, hrest, rfl⟩ := ClassNaming.className_eq_ok_iff.mp hclass
    exact CSharp.opensKeyword_iff.mpr ⟨rest, hrest, CSharp.isKeyword_iff.mp hkeyword⟩
  · intro h
    obtain ⟨rest, hrest, hword⟩ := CSharp.opensKeyword_iff.mp h
    obtain ⟨marker, hmarker, halpha⟩ := isMarker_iff.mp hsound.marker
    have hword' := CSharp.isIdentifier_of_mem_keywords _ hword
    have hname : CSharp.isIdentifier (marker :: rest) = true := by
      rw [← List.singleton_append]
      refine CSharp.isIdentifier_append ?_ ?_
      · simp [CSharp.isIdentifier, CSharp.startsIdentifier_of_isAlpha halpha]
      · intro c hc
        exact CSharp.continuesIdentifier_of_mem hword' (List.mem_append_right _ hc)
    have hbegins : ClassNaming.sameLetter marker config.naming.marker = true := by
      simp [ClassNaming.sameLetter, naming, hmarker]
    refine ⟨markedType marker rest, _, config.lead ++ rest, ofType_markedType hname, ?_,
      CSharp.isKeyword_iff.mpr hword⟩
    exact ClassNaming.className_eq_ok_iff.mpr ⟨marker, rest, rfl, hbegins, hrest, rfl⟩

example : ¬ CSharp.OpensKeyword ClassNaming.defaultLead := by decide

def shortSettings : Text :=
  endLines (List.map String.toList ["[naming]", "prefix = \"cl\""])

def shortConfig : Config :=
  { default with lead := "cl" }

theorem ofBytes_shortSettings : ofBytes (Text.utf8 shortSettings) = .ok shortConfig :=
  ofBytes_utf8 (by decide +kernel) (by decide +kernel) (by decide +kernel)

theorem classNames_of_ofBytes_short :
    ofBytes (Text.utf8 shortSettings) = .ok shortConfig ∧
      (∃ unit, shortConfig.template.unitFor "Acme.Proxies" ⟨"IThing", "IThing", []⟩ = .ok unit ∧
        unit.classNames = List.replicate 3 (some ("clThing" : Text))) ∧
      ∃ type contract className, Contract.ofType type = .ok contract ∧
        shortConfig.naming.className contract.name = .ok className ∧
          CSharp.isKeyword className = true := by
  obtain ⟨hnames, hreserved⟩ := classNames_of_ofBytes ofBytes_shortSettings
  have htype : Contract.ofType (markedType 'I' "Thing") = .ok ⟨"IThing", "IThing", []⟩ := by decide
  have hclass : shortConfig.naming.className "IThing" = .ok "clThing" := by decide
  obtain ⟨_, hwritten⟩ := hnames _ _ "clThing" htype hclass
  have hunit : shortConfig.template.unitFor "Acme.Proxies" ⟨"IThing", "IThing", []⟩ = .ok _ :=
    ProxyTemplate.unitFor_memberless (by decide) hclass
  exact ⟨ofBytes_shortSettings, ⟨_, hunit, hwritten "Acme.Proxies" _ hunit⟩,
    hreserved.mpr (by decide)⟩

/-- The class of a contract that ends like a reserved word. -/
theorem classNames_class :
    ofBytes (Text.utf8 shortSettings) = .ok shortConfig ∧
      Contract.ofType { markedType 'I' "ass" with scope := "Acme" } =
        .ok ⟨"Iass", "Acme.Iass", []⟩ ∧
      ∃ unit, shortConfig.template.unitFor "Acme.Proxies" ⟨"Iass", "Acme.Iass", []⟩ = .ok unit ∧
        unit.classNames = List.replicate 3 (some ("class" : Text)) ∧
          CSharp.isKeyword "class" = true :=
  ⟨ofBytes_shortSettings, by decide, _,
    ProxyTemplate.unitFor_memberless (by decide) (by decide : _ = Except.ok ("class" : Text)),
    by decide +kernel, by decide⟩

end Config

namespace ProxyTemplate

variable {type : TypeDeclaration} {contract : Contract} {naming : ClassNaming} {scope : Text}
  {unit : ProxyUnit}

theorem words_baseTypeOf_default (h : words contract.fullName = [contract.fullName]) :
    words (ProxyOptions.default.baseTypeOf contract.fullName) =
      [ProxyOptions.default.baseType, contract.fullName] := by
  unfold words at h
  have hopen : fields separatesWords (ProxyOptions.default.baseType ++ "<") =
      [ProxyOptions.default.baseType] := by
    decide +kernel
  rw [words, ProxyOptions.baseTypeOf, if_neg (by decide), fields_append_of_head rfl,
    fields_append_of_last rfl, hopen, h]
  rfl

theorem contractNames_eq (hunit : (⟨.default, naming⟩ : ProxyTemplate).unitFor scope contract =
      .ok unit) (hcontract : words contract.fullName = [contract.fullName]) :
    unit.contractNames = List.replicate 3 (some contract.fullName) := by
  obtain ⟨_, _, className, members, _, _, rfl⟩ := unitFor_eq_ok_iff.mp hunit
  have hdeclared := words_declarationLine ProxyOptions.default className contract.fullName
  rw [words_baseTypeOf_default hcontract, hcontract] at hdeclared
  show [_, _, _] = [_, _, _]
  simp only [assembled]
  have hends : words (declarationLine ProxyOptions.default className contract.fullName) =
      words ProxyOptions.default.visibility ++ [("sealed" : Text), "class"] ++ words className ++
        [ProxyOptions.default.baseType, contract.fullName] ++ [contract.fullName] := hdeclared
  rw [hends, wordAfter_factoryHead _ _ _ hcontract, List.getLast?_concat, List.dropLast_concat,
    List.getLast?_append]
  rfl

/-- Under the default names the declaration, the base type and the factory have the contract's full
name as it stands. Its parts are identifiers, and none but the last can be a reserved word: it is a
name of source text exactly if the last is not one. -/
theorem contractNames_of_unitFor (hcontract : Contract.ofType type = .ok contract)
    (hunit : (⟨.default, naming⟩ : ProxyTemplate).unitFor scope contract = .ok unit) :
    unit.contractNames = List.replicate 3 (some type.fullName) ∧
      (∃ qualifiers, type.fullName.splitOn '.' = qualifiers ++ [type.name] ∧
        (∀ part ∈ qualifiers ++ [type.name], CSharp.isIdentifier part = true) ∧
        ∀ qualifier ∈ qualifiers, CSharp.isKeyword qualifier = false) ∧
      (CSharp.isSourceName type.fullName = true ↔ CSharp.isKeyword type.name = false) := by
  obtain ⟨hacceptable, hdescribes⟩ := Contract.ofType_eq_ok_iff.mp hcontract
  have hnamed := hacceptable.header.named
  obtain ⟨qualifiers, hsplit, hqualifiers⟩ :=
    type.splitOn_fullName hnamed hacceptable.header.placed
  have hparts : ∀ part ∈ qualifiers ++ [type.name], CSharp.isIdentifier part = true := by
    intro part hpart
    rcases List.mem_append.mp hpart with hq | hlast
    · exact (hqualifiers part hq).1
    · rwa [List.mem_singleton.mp hlast]
  refine ⟨?_, ⟨qualifiers, hsplit, hparts, fun part hq => (hqualifiers part hq).2⟩, ?_⟩
  · rw [← hdescribes.fullName]
    refine contractNames_eq hunit ?_
    rw [hdescribes.fullName]
    exact CSharp.words_of_segments (by rwa [hsplit])
  · have hsource : ∀ part ∈ qualifiers ++ [type.name],
        CSharp.isSourceIdentifier part = !CSharp.isKeyword part :=
      fun part hpart => CSharp.isSourceIdentifier_eq (hparts part hpart)
    rw [CSharp.isSourceName, hsplit, List.all_eq_true]
    constructor
    · intro h
      have hlast := h type.name (by simp)
      simpa [hsource type.name (by simp)] using hlast
    · intro h part hpart
      rw [hsource part hpart]
      rcases List.mem_append.mp hpart with hq | hlast
      · simp [(hqualifiers part hq).2]
      · simp [List.mem_singleton.mp hlast, h]

theorem contractNames_of_unitFor_thing :
    ∃ type contract unit, Contract.ofType type = .ok contract ∧
      default.unitFor "Acme.Proxies" contract = .ok unit ∧
        unit.contractNames = List.replicate 3 (some ("Acme.IThing" : Text)) ∧
          CSharp.isSourceName "Acme.IThing" = true := by
  let type : TypeDeclaration := { Config.markedType 'I' "Thing" with scope := "Acme" }
  let contract : Contract := ⟨"IThing", "Acme.IThing", []⟩
  have htype : Contract.ofType type = .ok contract := by decide
  have hclass : ClassNaming.default.className "IThing" = .ok "RestartableThing" := by decide
  have hunit : default.unitFor "Acme.Proxies" contract = .ok _ :=
    unitFor_memberless (by decide) hclass
  obtain ⟨hwritten, _, hname⟩ := contractNames_of_unitFor htype hunit
  exact ⟨type, contract, _, htype, hunit, hwritten, hname.mpr (by decide)⟩

/-- A contract whose own name is a reserved word. -/
theorem contractNames_interface :
    Contract.ofType { Config.markedType 'i' "nterface" with scope := "Acme" } =
        .ok ⟨"interface", "Acme.interface", []⟩ ∧
      ∃ unit, default.unitFor "Acme.Proxies" ⟨"interface", "Acme.interface", []⟩ = .ok unit ∧
        unit.contractNames = List.replicate 3 (some ("Acme.interface" : Text)) ∧
          CSharp.isSourceName "Acme.interface" = false :=
  ⟨by decide, _,
    unitFor_memberless (by decide) (by decide : _ = Except.ok ("Restartablenterface" : Text)),
    by decide +kernel, by decide⟩

end ProxyTemplate

end ContractProxy
