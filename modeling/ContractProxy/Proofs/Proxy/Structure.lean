import ContractProxy.Proofs.Config.Acceptance
import ContractProxy.Proofs.Contract.Acceptance
import ContractProxy.Proofs.Proxy.Skeleton
import ContractProxy.Proofs.Text.Nesting

/-!
The structure of a rendered file. Behind the header it is the skeleton of the member kinds, so the
number of its lines and all its brackets are known before any name is. Main statement: whatever the
configuration and the metadata say, they cannot add to that structure.
-/

set_option autoImplicit false

namespace ContractProxy

open CSharp (marks marks_append isMark structuralMarks foreignMarks mem_marks)

/-- The structural marks of a text, in their order. -/
def outline (t : Text) : Text :=
  t.filter structuralMarks.contains

theorem outline_marks (t : Text) : outline (marks t) = outline t := by
  simp only [outline, marks, List.filter_filter, isMark]
  congr 1
  funext c
  cases structuralMarks.contains c <;> simp

theorem endLines_append (s t : List Text) : endLines (s ++ t) = endLines s ++ endLines t :=
  List.flatMap_append

theorem marks_endLines (lines : List Text) :
    marks (endLines lines) = endLines (lines.map marks) := by
  have hend : marks ("\n" : Text) = "\n" := rfl
  induction lines with
  | nil => rfl
  | cons line rest ih =>
    rw [List.map_cons, endLines, endLines, List.flatMap_cons, List.flatMap_cons, marks_append,
      marks_append, hend]
    exact congrArg (marks line ++ "\n" ++ ·) ih

def isSkeletal (line : Text) : Bool :=
  line.all fun c => structuralMarks.contains c && c != '\n'

theorem isSkeletal_wrapper (shape : MemberShape) :
    (([] : Text) :: shape.lines).all isSkeletal = true := by
  cases shape with
  | method returns => rfl
  | property writable => cases writable <;> rfl

theorem isSkeletal_of_mem_skeleton {shapes : List MemberShape} {line : Text}
    (h : line ∈ skeleton shapes) : isSkeletal line = true := by
  have hwrappers : ∀ chosen : List MemberShape,
      (chosen.flatMap fun shape => ([] : Text) :: shape.lines).all isSkeletal = true := by
    intro chosen
    rw [List.all_flatMap, List.all_eq_true]
    exact fun shape _ => isSkeletal_wrapper shape
  have hall : (skeleton shapes).all isSkeletal = true := by
    simp only [skeleton, List.all_append, hwrappers]
    decide
  exact List.all_eq_true.mp hall line h

theorem length_methodWrappers (shapes : List MemberShape) :
    ((shapes.filter MemberShape.isMethod).flatMap fun shape => ([] : Text) :: shape.lines).length =
      5 * shapes.countP MemberShape.isMethod := by
  induction shapes with
  | nil => rfl
  | cons shape rest ih =>
    cases shape with
    | method returns =>
      have hheight : (([] : Text) :: (MemberShape.method returns).lines).length = 5 := rfl
      rw [List.filter_cons_of_pos rfl, List.flatMap_cons, List.length_append, hheight, ih,
        List.countP_cons_of_pos rfl]
      omega
    | property writable =>
      rwa [List.filter_cons_of_neg (by simp [MemberShape.isMethod]),
        List.countP_cons_of_neg (by simp [MemberShape.isMethod])]

theorem length_propertyWrappers (shapes : List MemberShape) :
    ((shapes.filter (!·.isMethod)).flatMap fun shape => ([] : Text) :: shape.lines).length =
      8 * shapes.count (.property false) + 12 * shapes.count (.property true) := by
  induction shapes with
  | nil => rfl
  | cons shape rest ih =>
    cases shape with
    | method returns =>
      rwa [List.filter_cons_of_neg (by simp [MemberShape.isMethod]),
        List.count_cons_of_ne (by simp), List.count_cons_of_ne (by simp)]
    | property writable =>
      have hheight : (([] : Text) :: (MemberShape.property writable).lines).length =
          if writable then 12 else 8 := by
        cases writable <;> rfl
      rw [List.filter_cons_of_pos rfl, List.flatMap_cons, List.length_append, hheight, ih]
      cases writable <;> simp <;> omega

theorem length_skeleton (shapes : List MemberShape) :
    (skeleton shapes).length = 19 + 5 * shapes.countP MemberShape.isMethod +
      8 * shapes.count (.property false) + 12 * shapes.count (.property true) := by
  simp only [skeleton, List.length_append, List.length_cons, List.length_nil,
    length_methodWrappers, length_propertyWrappers]
  omega

theorem openBrackets_wrapper (shape : MemberShape) (stack : List Char) :
    (endLines ([] :: shape.lines)).foldlM Text.openBrackets stack = some stack := by
  cases shape with
  | method returns => rfl
  | property writable => cases writable <;> rfl

theorem openBrackets_wrappers (shapes : List MemberShape) (stack : List Char) :
    (endLines (shapes.flatMap fun shape => [] :: shape.lines)).foldlM Text.openBrackets stack =
      some stack := by
  induction shapes with
  | nil => rfl
  | cons shape rest ih =>
    rw [List.flatMap_cons, endLines_append, List.foldlM_append, openBrackets_wrapper]
    exact ih

theorem nested_skeleton (shapes : List MemberShape) :
    Text.Nested (endLines (skeleton shapes)) := by
  unfold Text.Nested skeleton
  simp only [endLines_append, List.foldlM_append, openBrackets_wrappers]
  rfl

theorem openBrackets_of_not_isMark {c : Char} (h : isMark c = false) (stack : List Char) :
    Text.openBrackets stack c = some stack := by
  unfold Text.openBrackets
  split
  · exact absurd h (by decide)
  · exact absurd h (by decide)
  · exact absurd h (by decide)
  · exact absurd h (by decide)
  · rfl

theorem openBrackets_marks (t : Text) (stack : List Char) :
    (marks t).foldlM Text.openBrackets stack = t.foldlM Text.openBrackets stack := by
  induction t generalizing stack with
  | nil => rfl
  | cons c rest ih =>
    cases hmark : isMark c with
    | true =>
      rw [marks, List.filter_cons_of_pos hmark, List.foldlM_cons, List.foldlM_cons]
      exact congrArg _ (funext ih)
    | false =>
      rw [CSharp.marks_cons hmark, List.foldlM_cons, openBrackets_of_not_isMark hmark]
      exact ih stack

theorem outline_of_marks {t : Text} {shapes : List MemberShape}
    (h : marks t = endLines (skeleton shapes)) :
    outline t = endLines (skeleton shapes) ∧ (∀ c ∈ t, c ∉ foreignMarks) ∧ Text.Nested t := by
  have hstructural : ∀ c ∈ endLines (skeleton shapes), c ∈ structuralMarks := by
    intro c hc
    obtain ⟨line, hl, hc⟩ := List.mem_flatMap.mp hc
    rcases List.mem_append.mp hc with hc | hc
    · have hall := List.all_eq_true.mp (isSkeletal_of_mem_skeleton hl) c hc
      simp only [Bool.and_eq_true, List.contains_iff_mem] at hall
      exact hall.1
    · rw [List.mem_singleton.mp hc]
      decide
  refine ⟨?_, ?_, ?_⟩
  · rw [← outline_marks, h, outline, List.filter_eq_self]
    intro c hc
    exact List.contains_iff_mem.mpr (hstructural c hc)
  · intro c hc hforeign
    -- It would be a mark of the text, so one of the skeleton, where all are structural.
    have hmark : isMark c = true := by
      simp [isMark, hforeign]
    have hin : c ∈ endLines (skeleton shapes) := by
      rw [← h]
      exact mem_marks.mpr ⟨hc, hmark⟩
    have hdisjoint : foreignMarks.all (!structuralMarks.contains ·) = true := by decide
    have hc := List.all_eq_true.mp hdisjoint c hforeign
    simp [hstructural c hin] at hc
  · unfold Text.Nested
    rw [← openBrackets_marks, h]
    exact nested_skeleton shapes

theorem marks_className {rule : ClassNaming} {name className : Text}
    (hlead : CSharp.isIdentifier rule.lead = true) (hname : marks name = [])
    (h : rule.className name = .ok className) : marks className = [] := by
  cases name with
  | nil => cases h
  | cons c rest =>
    rw [ClassNaming.className] at h
    split_ifs at h
    cases h
    rw [marks_append, CSharp.marks_of_isIdentifier hlead, List.nil_append, CSharp.marks_eq_nil_iff]
    intro other ho
    exact CSharp.marks_eq_nil_iff.mp hname other (List.mem_cons_of_mem c ho)

namespace Contract

theorem marks_fullName {type : TypeDeclaration} (h : SoundHeader type) :
    marks type.fullName = [] := by
  have hname := CSharp.marks_of_isIdentifier h.named
  rw [TypeDeclaration.fullName]
  split_ifs with hempty
  · exact hname
  · have hscope : CSharp.isDottedName type.scope = true := by
      rcases h.placed with hnil | hdotted
      · simp [hnil] at hempty
      · exact hdotted
    simp only [marks_append, hname, CSharp.marks_of_isDottedName hscope]
    decide

theorem markFree_of_forwardedAs {member : Member} {result : ContractMember}
    (hexpressible : Expressible member) (h : ForwardedAs member result) : result.MarkFree := by
  have htypes : ∀ type ∈ result.types, marks type.csharp = [] :=
    fun type hm => TypeRef.marks_csharp (h.check_of_mem_types hm hexpressible)
  cases hexpressible with
  | method hname hparameters hreturns =>
    cases h with
    | method name parameters returns =>
      refine ⟨CSharp.marks_of_isIdentifier hname, ?_, ?_⟩
      · intro parameter hp
        exact ⟨CSharp.marks_of_isIdentifier (hparameters.each parameter hp).1,
          htypes _ (List.mem_append_left _ (List.mem_map_of_mem hp))⟩
      · intro type htype
        exact htypes _ (List.mem_append_right _ (Option.mem_toList.mpr htype))
  | property hname htype =>
    cases h
    exact ⟨CSharp.marks_of_isIdentifier hname, htypes _ (List.mem_singleton_self _)⟩

theorem markFree_of_ofType {type : TypeDeclaration} {contract : Contract}
    (h : ofType type = .ok contract) :
    marks contract.name = [] ∧ marks contract.fullName = [] ∧
      ∀ member ∈ contract.members, member.MarkFree := by
  obtain ⟨hacceptable, hdescribes⟩ := ofType_eq_ok_iff.mp h
  refine ⟨?_, ?_, ?_⟩
  · rw [hdescribes.name]
    exact CSharp.marks_of_isIdentifier hacceptable.header.named
  · rw [hdescribes.fullName]
    exact marks_fullName hacceptable.header
  · refine forall_mem_of_forall₂ hdescribes.members ?_
    intro member hm result hforwarded
    exact markFree_of_forwardedAs (hacceptable.members member hm) hforwarded

end Contract

namespace ProxyTemplate

theorem marks_of_mapM_fragment {options : ProxyOptions} {contract : Text}
    (hoptions : options.Sound) {members : List ContractMember} {pieces : List Fragment}
    (hmembers : ∀ member ∈ members, member.MarkFree)
    (h : members.mapM (fragment options contract) = .ok pieces) :
    List.Forall₂ (fun piece shape =>
      piece.isMethod = shape.isMethod ∧ piece.lines.map marks = shape.lines) pieces
      (members.map ContractMember.shape) := by
  rw [List.forall₂_map_right_iff]
  have hpieces := ((List.forall₂_and_left _ _).mpr ⟨hmembers, mapM_eq_ok_iff.mp h⟩).flip
  exact hpieces.imp fun piece member hpiece => marks_of_fragment hoptions hpiece.2 hpiece.1

theorem marks_body_of_unitFor {template : ProxyTemplate} {scope : Text} {type : TypeDeclaration}
    {contract : Contract} {unit : ProxyUnit}
    (hlead : CSharp.isIdentifier template.naming.lead = true)
    (hcontract : Contract.ofType type = .ok contract)
    (hunit : template.unitFor scope contract = .ok unit) :
    unit.body.map marks = skeleton (contract.members.map ContractMember.shape) := by
  obtain ⟨hname, hfullName, hmembers⟩ := Contract.markFree_of_ofType hcontract
  obtain ⟨hscope, hvalid, className, pieces, hclass, hpieces, rfl⟩ := unitFor_eq_ok_iff.mp hunit
  have hoptions := ProxyOptions.validate_eq_ok_iff.mp hvalid
  exact marks_body hoptions hscope (marks_className hlead hname hclass) hfullName
    (marks_of_mapM_fragment hoptions hmembers hpieces)

theorem headerLines_eq_set (version : Text) :
    headerLines version = (headerLines []).set 3 ("//     Runtime Version:" ++ version) := rfl

theorem not_mem_of_mem_headerLines {version line : Text}
    (hversion : ProxyOptions.isVersion version = true) (h : line ∈ headerLines version) :
    '\n' ∉ line ∧ '\r' ∉ line := by
  have hplain : ∀ other ∈ headerLines [], '\n' ∉ other ∧ '\r' ∉ other := by
    decide +kernel
  have hlabel : '\n' ∉ ("//     Runtime Version:" : Text) ∧
      '\r' ∉ ("//     Runtime Version:" : Text) := by
    decide
  rw [headerLines_eq_set] at h
  rcases List.mem_or_eq_of_mem_set h with hl | rfl
  · exact hplain line hl
  · have hends : ∀ c ∈ version, c ≠ '\n' ∧ c ≠ '\r' := by
      simpa [ProxyOptions.isVersion] using hversion
    rw [List.mem_append, List.mem_append, not_or, not_or]
    exact ⟨⟨hlabel.1, fun hm => (hends _ hm).1 rfl⟩, ⟨hlabel.2, fun hm => (hends _ hm).2 rfl⟩⟩

theorem not_mem_of_skeletal {line : Text} (h : isSkeletal (marks line) = true) :
    '\n' ∉ line ∧ '\r' ∉ line := by
  have hmark : ∀ c ∈ line, isMark c = true → c ∈ structuralMarks ∧ c ≠ '\n' := by
    intro c hc hm
    simpa [List.contains_iff_mem] using List.all_eq_true.mp h c (mem_marks.mpr ⟨hc, hm⟩)
  constructor
  · intro hm
    exact (hmark _ hm (by decide)).2 rfl
  · intro hm
    exact absurd (hmark _ hm (by decide)).1 (by decide)

theorem header_of_unitFor {template : ProxyTemplate} {scope : Text} {contract : Contract}
    {unit : ProxyUnit} (h : template.unitFor scope contract = .ok unit) :
    unit.header = headerLines template.options.toolVersion := by
  obtain ⟨_, _, _, _, _, _, rfl⟩ := unitFor_eq_ok_iff.mp h
  rfl

theorem lines_of_unitFor {template : ProxyTemplate} {scope : Text} {contract : Contract}
    {unit : ProxyUnit} (h : template.unitFor scope contract = .ok unit) :
    unit.lines = unit.header ++ unit.body := by
  have hheight : unit.header.length = ProxyUnit.headerHeight := by
    rw [header_of_unitFor h]
    rfl
  rw [ProxyUnit.body, ← hheight, ProxyUnit.lines, List.append_assoc, List.append_assoc,
    List.drop_left]

theorem not_mem_of_mem_lines {template : ProxyTemplate} {scope : Text} {type : TypeDeclaration}
    {contract : Contract} {unit : ProxyUnit}
    (hlead : CSharp.isIdentifier template.naming.lead = true)
    (hcontract : Contract.ofType type = .ok contract)
    (hunit : template.unitFor scope contract = .ok unit) {line : Text} (hl : line ∈ unit.lines) :
    '\n' ∉ line ∧ '\r' ∉ line := by
  rw [lines_of_unitFor hunit, List.mem_append] at hl
  rcases hl with hl | hl
  · rw [header_of_unitFor hunit] at hl
    have hoptions := ProxyOptions.validate_eq_ok_iff.mp (unitFor_eq_ok_iff.mp hunit).2.1
    exact not_mem_of_mem_headerLines hoptions.toolVersion hl
  · have hskeleton := List.mem_map_of_mem (f := marks) hl
    rw [marks_body_of_unitFor hlead hcontract hunit] at hskeleton
    exact not_mem_of_skeletal (isSkeletal_of_mem_skeleton hskeleton)

end ProxyTemplate

/-- A file whose body shows nothing but the shapes of some members. -/
structure Structured (unit : ProxyUnit) (shapes : List MemberShape) : Prop where
  rendered : unit.render = endLines unit.header ++ endLines unit.body
  header : unit.header.length = 9
  height : (unit.header ++ unit.body).length = 28 + 5 * shapes.countP MemberShape.isMethod +
    8 * shapes.count (.property false) + 12 * shapes.count (.property true)
  ended : ∀ line ∈ unit.header ++ unit.body, '\n' ∉ line
  noForeign : ∀ c ∈ endLines unit.body, c ∉ foreignMarks
  outlined : outline (endLines unit.body) = endLines (skeleton shapes)
  nested : Text.Nested (endLines unit.body)
  braces : Text.Balanced '\x7b' '\x7d' (endLines unit.body)
  parentheses : Text.Balanced '(' ')' (endLines unit.body)

/-- The names in a configuration and in the metadata of an assembly cannot change the structure of
the file that they go into. -/
theorem structured_of_unitFor {bytes : Bytes} {config : Config}
    (hconfig : Config.ofBytes bytes = .ok config) {scope : Text} {type : TypeDeclaration}
    {contract : Contract} (hcontract : Contract.ofType type = .ok contract) {unit : ProxyUnit}
    (hunit : config.template.unitFor scope contract = .ok unit) :
    Structured unit (contract.members.map ContractMember.shape) := by
  have hlead := (Config.sound_of_ofBytes hconfig).lead
  have hmarks := ProxyTemplate.marks_body_of_unitFor hlead hcontract hunit
  have hlines := ProxyTemplate.lines_of_unitFor hunit
  have hheader : unit.header.length = 9 := by
    rw [ProxyTemplate.header_of_unitFor hunit]
    rfl
  have hbody : marks (endLines unit.body) =
      endLines (skeleton (contract.members.map ContractMember.shape)) := by
    rw [marks_endLines, hmarks]
  obtain ⟨houtline, hforeign, hnested⟩ := outline_of_marks hbody
  obtain ⟨hbraces, hparentheses⟩ := hnested.balanced
  refine ⟨?_, hheader, ?_, ?_, hforeign, houtline, hnested, hbraces, hparentheses⟩
  · rw [ProxyUnit.render, hlines, endLines_append]
  · have hheight := congrArg List.length hmarks
    rw [List.length_map, length_skeleton] at hheight
    rw [List.length_append, hheader, hheight]
    omega
  · rw [← hlines]
    intro line hl
    exact (ProxyTemplate.not_mem_of_mem_lines hlead hcontract hunit hl).1

def leadSettings : Text :=
  endLines (List.map String.toList
    ["[generator]",
     "base_type = \"Acme.Base<\x7bcontract\x7d, Acme.Token>\"",
     "[naming]",
     "prefix = \"Resilient\""])

def leadConfig : Config :=
  { Config.default with
    options := { ProxyOptions.default with baseType := "Acme.Base<\x7bcontract\x7d, Acme.Token>" }
    lead := "Resilient" }

theorem ofBytes_leadSettings : Config.ofBytes (Text.utf8 leadSettings) = .ok leadConfig :=
  Config.ofBytes_utf8 (by decide +kernel) (by decide +kernel) (by decide +kernel)

/-- An interface with a nested generic type, and with a keyword for a parameter's name. -/
def depot : TypeDeclaration where
  scope := "Acme"
  name := "IDepot"
  kind := .interface
  exported := true
  members :=
    [.method "Find"
      [⟨"class", .ofSpelling "Acme.Outer+Inner[][,]"⟩, ⟨"key", .named "System.String"⟩]
      (some (.generic "System.Collections.Generic.IList\x601" [.ofSpelling "Acme.Item[,]"])) false,
      .property "Name" (.named "System.String") true true,
      .property "Count" (.named "System.Int32") true false,
      .method "Clear" [] (some (.named "System.Void")) false]

def depotContract : Contract where
  name := "IDepot"
  fullName := "Acme.IDepot"
  members :=
    [.method "Find"
      [⟨"class", .ofSpelling "Acme.Outer+Inner[][,]"⟩, ⟨"key", .named "System.String"⟩]
      (some (.generic "System.Collections.Generic.IList\x601" [.ofSpelling "Acme.Item[,]"])),
      .property "Name" (.named "System.String") true,
      .property "Count" (.named "System.Int32") false,
      .method "Clear" [] none]

theorem ofType_depot : Contract.ofType depot = .ok depotContract := by
  decide

theorem structured_of_unitFor_depot :
    Config.ofBytes (Text.utf8 leadSettings) = .ok leadConfig ∧
      Contract.ofType depot = .ok depotContract ∧
      ∃ unit, leadConfig.template.unitFor "Acme.Proxies" depotContract = .ok unit ∧
        Structured unit [.method true, .property true, .property false, .method false] := by
  refine ⟨ofBytes_leadSettings, ofType_depot, ?_⟩
  have hok : (leadConfig.template.unitFor "Acme.Proxies" depotContract).isOk = true := by
    decide +kernel
  cases hunit : leadConfig.template.unitFor "Acme.Proxies" depotContract with
  | error fault =>
    rw [hunit] at hok
    cases hok
  | ok unit => exact ⟨unit, rfl, structured_of_unitFor ofBytes_leadSettings ofType_depot hunit⟩

end ContractProxy
