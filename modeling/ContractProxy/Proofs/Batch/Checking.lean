import ContractProxy.Proofs.Batch.Writing
import ContractProxy.Proofs.Proxy.Version

/-!
A batch that is checked. The check reads the same files that a write would make and changes none.
Main statement: what was written is verified right afterwards, by any version of the tool, and what
failed before a file was written for it fails again.
-/

set_option autoImplicit false

namespace ContractProxy

def GenerateFault.isIo : GenerateFault → Bool
  | .file _ => true
  | .output _ => true
  | _ => false

namespace Generator

open FileTree (Change IsPlain)

def checkFile (folder : Text) :
    Text × Outcome → StateM FileTree (Text × Except GenerateFault Text) :=
  eachFile folder fun path text => do
    pure ((← SourceFile.check path text).mapError (.drift path))

def checkedFile (folder : Text) (tree : FileTree) :
    Text × Outcome → Text × Except GenerateFault Text
  | (contract, .error fault) => (contract, .error fault)
  | (contract, .ok unit) =>
    let path := Path.join folder unit.fileName
    (contract, ((SourceFile.checked tree path unit.render).mapError (.drift path)).map
      fun () => path)

theorem checkFile_apply (folder : Text) (tree : FileTree) (entry : Text × Outcome) :
    checkFile folder entry tree = (checkedFile folder tree entry, tree) := by
  obtain ⟨contract, fault | unit⟩ := entry
  · rfl
  · have hfile : checkFile folder (contract, .ok unit) tree =
        let path := Path.join folder unit.fileName
        let checked := (SourceFile.check path unit.render : StateM FileTree _) tree
        ((contract, (checked.1.mapError (.drift path)).map fun () => path), checked.2) := rfl
    rw [hfile]
    simp only [SourceFile.check_apply]
    rfl

theorem mapM_checkFile (folder : Text) (tree : FileTree) (entries : List (Text × Outcome)) :
    entries.mapM (checkFile folder) tree = (entries.map (checkedFile folder tree), tree) := by
  induction entries with
  | nil => rfl
  | cons entry rest ih =>
    have hstep : (entry :: rest).mapM (checkFile folder) tree =
        let first := checkFile folder entry tree
        let others := rest.mapM (checkFile folder) first.2
        (first.1 :: others.1, others.2) := by
      rw [List.mapM_cons]
      rfl
    rw [hstep, checkFile_apply]
    simp only [ih, List.map_cons]

theorem checkBatch_apply (generator : Generator) (folder : Text) (tree : FileTree) :
    (generator.checkBatch folder : StateM FileTree Report) tree =
      (Report.ofResults "check" checkedEvent (generator.selected.map (checkedFile folder tree)),
        tree) := by
  have hbatch : (generator.checkBatch folder : StateM FileTree Report) tree =
      let checked := generator.selected.mapM (checkFile folder) tree
      (Report.ofResults "check" checkedEvent checked.1, checked.2) := rfl
  rw [hbatch, mapM_checkFile]

def withVersion (generator : Generator) (version : Text) : Generator :=
  { generator with template := generator.template.withVersion version }

def outcomeWithVersion (version : Text) (entry : Text × Outcome) : Text × Outcome :=
  (entry.1, entry.2.map (·.withVersion version))

theorem assignFiles_withVersion (version : Text) (owners : List (Text × Text))
    (entries : List (Text × Outcome)) :
    assignFiles owners (entries.map (outcomeWithVersion version)) =
      (assignFiles owners entries).map (outcomeWithVersion version) := by
  induction entries generalizing owners with
  | nil => rfl
  | cons entry rest ih =>
    obtain ⟨contract, fault | unit⟩ := entry
    · exact congrArg _ (ih owners)
    · have hfile : (unit.withVersion version).fileName = unit.fileName := rfl
      simp only [List.map_cons, outcomeWithVersion, Except.map, assignFiles, hfile]
      cases owners.lookup (Text.lowercase unit.fileName) with
      | some first => exact congrArg _ (ih owners)
      | none => exact congrArg _ (ih _)

theorem selected_withVersion {generator : Generator}
    (hoptions : generator.template.options.Sound) {version : Text}
    (hversion : ProxyOptions.isVersion version = true) :
    (generator.withVersion version).selected =
      generator.selected.map (outcomeWithVersion version) := by
  have htype : ∀ type, (generator.withVersion version).ofType type =
      (generator.ofType type).map (·.withVersion version) := by
    intro type
    unfold ofType
    cases Contract.ofType type with
    | error rejection => rfl
    | ok contract =>
      have hunit := ProxyTemplate.unitFor_withVersion hoptions hversion generator.scope contract
      change ((generator.template.withVersion version).unitFor generator.scope contract).mapError
        GenerateFault.proxy = ((generator.template.unitFor generator.scope contract).mapError
          GenerateFault.proxy).map (·.withVersion version)
      rw [hunit]
      cases generator.template.unitFor generator.scope contract <;> rfl
  have houtcome : ∀ entry, (generator.withVersion version).outcomeOf entry =
      (generator.outcomeOf entry).map (·.withVersion version) := by
    rintro ⟨name, none | type⟩
    · rfl
    · exact htype type
  have houtcomes : (generator.withVersion version).outcomes =
      generator.outcomes.map (outcomeWithVersion version) := by
    rw [outcomes_eq, outcomes_eq, List.map_map]
    refine List.map_congr_left fun entry _ => ?_
    rw [houtcome]
    rfl
  rw [selected, selected, houtcomes, assignFiles_withVersion]

/-- What a check says of one contract, given what a write said: the same, unless its file could not
be written. -/
inductive Confirms : Text × Except GenerateFault Text → Text × Except GenerateFault Text → Prop
  | same (result : Text × Except GenerateFault Text) : Confirms result result
  | unwritten {contract : Text} {fault : SourceFileFault} {result : Except GenerateFault Text} :
    Confirms (contract, .error (.output fault)) (contract, result)

section Confirms

variable {written checked : List (Text × Except GenerateFault Text)}

theorem sublist_successes (h : List.Forall₂ Confirms written checked) :
    (successes written).Sublist (successes checked) := by
  rw [successes_eq, successes_eq]
  induction h with
  | nil => exact List.Sublist.refl []
  | @cons first _ _ _ hfirst _ ih =>
    cases hfirst with
    | same =>
      rw [List.filterMap_cons, List.filterMap_cons]
      cases success? first with
      | none => exact ih
      | some path => exact ih.cons_cons path
    | @unwritten contract fault result =>
      cases result with
      | error _ => exact ih
      | ok path => exact ih.cons path

theorem sublist_failures (h : List.Forall₂ Confirms written checked) :
    ((failures written).filter fun failure => !failure.2.isIo).Sublist (failures checked) := by
  rw [failures_eq, failures_eq]
  induction h with
  | nil => exact List.Sublist.refl []
  | @cons first _ _ _ hfirst _ ih =>
    cases hfirst with
    | same =>
      rw [List.filterMap_cons, List.filterMap_cons]
      cases failure? first with
      | none => exact ih
      | some failure =>
        simp only [List.filter_cons]
        split_ifs
        · exact ih.cons_cons failure
        · exact ih.cons failure
    | @unwritten contract fault result =>
      cases result with
      | error found => exact ih.cons (contract, found)
      | ok path => exact ih

theorem eq_of_confirms (h : List.Forall₂ Confirms written checked)
    (hwritten : ∀ failure ∈ failures written, failure.2.isIo = false) : checked = written := by
  rw [failures_eq] at hwritten
  induction h with
  | nil => rfl
  | @cons first second rest others hfirst _ ih =>
    rw [List.filterMap_cons] at hwritten
    cases hfirst with
    | same =>
      -- The failures of the rest are failures of the whole.
      have hrest : others = rest := by
        refine ih fun failure hm => hwritten failure ?_
        cases failure? first with
        | none => exact hm
        | some found => exact List.mem_cons_of_mem found hm
      rw [hrest]
    | unwritten => cases hwritten _ List.mem_cons_self

end Confirms

theorem isIo_of_ofType {generator : Generator} {type : TypeDeclaration} {fault : GenerateFault}
    (h : generator.ofType type = .error fault) : fault.isIo = false := by
  rcases fault_of_ofType h with ⟨rejection, rfl⟩ | ⟨found, rfl⟩
  · rfl
  · rfl

theorem isIo_of_refused {generator : Generator} {i : Nat} {failure : Text × GenerateFault}
    (h : Refused generator.outcomes i failure) : failure.2.isIo = false := by
  cases h with
  | claimed => rfl
  | @failed contract fault hfault =>
    have hm := List.mem_of_getElem? hfault
    rw [outcomes_eq] at hm
    obtain ⟨⟨name, type⟩, _, heq⟩ := List.mem_map.mp hm
    obtain ⟨_, houtcome⟩ := Prod.mk.inj heq
    cases type with
    | none =>
      cases houtcome
      rfl
    | some type => exact isIo_of_ofType houtcome

theorem isIo_of_mem_failures (generator : Generator) :
    ∀ failure ∈ generator.batch.failures, failure.2.isIo = false :=
  forall_mem_of_forall₂ generator.refused_failures fun _ _ _ h => isIo_of_refused h

theorem filter_failures {folder : Text} {units : List ProxyUnit} {entries : List (Text × Outcome)}
    {results : List (Text × Except GenerateFault Text)}
    (h : List.Forall₂ (Reported folder units) entries results)
    (hentries : ∀ failure ∈ failures entries, failure.2.isIo = false) :
    ((failures results).filter fun failure => !failure.2.isIo) = failures entries := by
  rw [failures_eq] at hentries ⊢
  rw [failures_eq]
  induction h with
  | nil => rfl
  | cons hfirst _ ih =>
    cases hfirst with
    | @failed contract fault =>
      change ∀ failure ∈ (contract, fault) :: _, failure.2.isIo = false at hentries
      obtain ⟨hfault, hrest⟩ := List.forall_mem_cons.mp hentries
      change List.filter _ ((contract, fault) :: _) = (contract, fault) :: _
      rw [List.filter_cons_of_pos (by simp [hfault]), ih hrest]
    | refused => exact ih hentries
    | placed => exact ih hentries

/-- The last event, and only that, says that a batch is done. -/
def Completes (events : List Event) : Prop :=
  ∃ earlier last, events = earlier ++ [last] ∧ last.kind = .batchCompleted ∧
    ∀ event ∈ earlier, event.kind ≠ .batchCompleted

theorem completes_ofResults (operation : Text)
    {event : Text → Except GenerateFault Text → Option Event}
    (hevent : ∀ contract result, ∀ found ∈ event contract result, found.kind ≠ .batchCompleted)
    (results : List (Text × Except GenerateFault Text)) :
    Completes (Report.ofResults operation event results).events := by
  refine ⟨_, _, rfl, rfl, ?_⟩
  intro found hm
  obtain ⟨⟨contract, result⟩, _, hfound⟩ := List.mem_filterMap.mp hm
  exact hevent contract result found hfound

theorem kind_writtenEvent (contract : Text) (result : Except GenerateFault Text) :
    ∀ found ∈ writtenEvent contract result, found.kind ≠ .batchCompleted := by
  intro found hfound
  cases result with
  | ok path =>
    cases hfound
    simp
  | error fault =>
    cases hfound
    simp [contractFailed]

theorem kind_checkedEvent (contract : Text) (result : Except GenerateFault Text) :
    ∀ found ∈ checkedEvent contract result, found.kind ≠ .batchCompleted := by
  intro found hfound
  unfold checkedEvent at hfound
  split at hfound
  · cases hfound
  · cases hfound
    simp
  · cases hfound
    simp [contractFailed]

theorem checkedFile_withVersion {generator : Generator} {unit : ProxyUnit}
    (hunit : unit ∈ generator.batch.units) {version : Text}
    (hversion : ProxyOptions.isVersion version = true) {folder : Text} {tree : FileTree}
    (hread : tree.read (Path.join folder unit.fileName) = .ok (Text.utf8 unit.render))
    (contract : Text) :
    checkedFile folder tree (outcomeWithVersion version (contract, .ok unit)) =
      (contract, .ok (Path.join folder unit.fileName)) := by
  obtain ⟨_, _, _, hmade⟩ := exists_contract_of_mem hunit
  have hchecked : SourceFile.checked tree (Path.join folder unit.fileName)
      (unit.withVersion version).render = .ok () := by
    rw [SourceFile.checked, SourceFile.readText_of_read hread]
    simp only [ProxyTemplate.between_of_unitFor hmade hversion]
  change (contract, ((SourceFile.checked tree (Path.join folder unit.fileName)
    (unit.withVersion version).render).mapError _).map _) = _
  rw [hchecked]
  rfl

theorem confirms_of_written {generator : Generator}
    (hoptions : generator.template.options.Sound) {version : Text}
    (hversion : ProxyOptions.isVersion version = true) {folder : Text} {tree after : FileTree}
    {results : List (Text × Except GenerateFault Text)} {units : List ProxyUnit}
    (h : Written generator folder tree after results units) :
    List.Forall₂ Confirms results
      ((generator.withVersion version).selected.map (checkedFile folder after)) := by
  rw [selected_withVersion hoptions hversion, List.map_map, List.forall₂_map_right_iff]
  refine h.reported.flip.imp ?_
  intro result entry hreported
  cases hreported with
  | failed => exact .same _
  | refused => exact .unwritten
  | @placed contract unit hm =>
    have hunit := h.sublist.subset hm
    rw [Function.comp_apply, checkedFile_withVersion hunit hversion (h.reads unit hm)]
    exact .same _

/-- What a check says right after a write, and what both have in common. -/
structure Verified (generator : Generator) (folder : Text) (tree : FileTree)
    (report checked : Report) : Prop where
  written : ∃ units : List ProxyUnit, units.Sublist generator.batch.units ∧
    List.Forall₂ (fun path unit => path = Path.join folder unit.fileName ∧
      tree.read path = .ok (Text.utf8 unit.render)) report.outputs units
  verified : report.outputs.Sublist checked.outputs
  early : (report.failures.filter fun failure => !failure.2.isIo) = generator.batch.failures
  repeated : generator.batch.failures.Sublist checked.failures
  unbroken : (∀ failure ∈ report.failures, failure.2.isIo = false) →
    checked.outputs = report.outputs ∧ checked.failures = report.failures
  total : report.total = generator.selection.length ∧ checked.total = generator.selection.length
  completed : Completes report.events ∧ Completes checked.events

/-- Every version of the tool verifies what one version wrote. -/
theorem checkBatch_verifies {config : Config} (hconfig : config.validate = .ok ())
    {generator : Generator} (htemplate : generator.template = config.template) {version : Text}
    (hversion : ProxyOptions.isVersion version = true) {folder : Text} {tree after : FileTree}
    {report : Report}
    (hwrite : (generator.writeBatch folder : StateM FileTree _) tree = (.ok report, after)) :
    ∃ checked, ((generator.withVersion version).checkBatch folder : StateM FileTree Report) after =
      (checked, after) ∧ Verified generator folder after report checked := by
  have hsound := Config.sound_of_validate hconfig
  have hlead : CSharp.isIdentifier generator.template.naming.lead = true := by
    rw [htemplate]
    exact hsound.lead
  have hoptions : generator.template.options.Sound := by
    rw [htemplate]
    exact hsound.options
  obtain ⟨results, units, rfl, hwritten⟩ := written_of_writeBatch hlead hwrite
  have hconfirms := confirms_of_written hoptions hversion hwritten
  have hlength : results.length = generator.selection.length := by
    rw [← hwritten.reported.length_eq, length_selected, outcomes_eq, List.length_map]
  have hearly := filter_failures hwritten.reported generator.isIo_of_mem_failures
  refine ⟨_, checkBatch_apply _ folder after, ?_⟩
  refine ⟨⟨units, hwritten.sublist, ?_⟩, sublist_successes hconfirms, hearly, ?_, ?_, ⟨?_, ?_⟩,
    ⟨?_, ?_⟩⟩
  · change List.Forall₂ _ (successes results) units
    rw [hwritten.outputs, List.forall₂_map_left_iff, List.forall₂_same]
    exact fun unit hm => ⟨rfl, hwritten.reads unit hm⟩
  · have hrepeated := sublist_failures hconfirms
    rwa [hearly] at hrepeated
  · intro hunbroken
    have hsame := eq_of_confirms hconfirms hunbroken
    change successes _ = successes results ∧ failures _ = failures results
    rw [hsame]
    exact ⟨rfl, rfl⟩
  · exact (length_successes_add_failures results).trans hlength
  · exact (length_successes_add_failures _).trans (hconfirms.length_eq.symm.trans hlength)
  · exact completes_ofResults "write" kind_writtenEvent results
  · exact completes_ofResults "check" kind_checkedEvent _

/-- Two contracts that claim the same file. -/
def depots : Generator where
  assembly := ⟨"Acme", [depot, { depot with name := "iDepot" }]⟩
  scope := "Acme.Proxies"
  template := Config.default.template
  only := none

theorem checkBatch_verifies_depots :
    Config.default.validate = .ok () ∧ depots.template = Config.default.template ∧
      ProxyOptions.isVersion "9.9.9" = true ∧
      ∃ report after, (depots.writeBatch "out" : StateM FileTree _) .empty = (.ok report, after) ∧
        report.outputs = ["out/RestartableDepot.cs"] ∧ report.failures.length = 1 ∧
        ∃ checked, ((depots.withVersion "9.9.9").checkBatch "out" : StateM FileTree Report) after =
          (checked, after) ∧ Verified depots "out" after report checked := by
  have hversion : ProxyOptions.isVersion "9.9.9" = true := by decide
  have hreport : ((depots.writeBatch "out" : StateM FileTree (Except GenerateFault Report))
      .empty).1.toOption.map (fun report => (report.outputs, report.failures.length)) =
        some ⟨["out/RestartableDepot.cs"], 1⟩ := by
    decide +kernel
  refine ⟨Config.validate_default, rfl, hversion, ?_⟩
  rcases hwrite : (depots.writeBatch "out" : StateM FileTree (Except GenerateFault Report))
    .empty with ⟨fault | report, after⟩
  · rw [hwrite] at hreport
    cases hreport
  · rw [hwrite] at hreport
    obtain ⟨houtputs, hfailures⟩ := Prod.mk.inj (Option.some.inj hreport)
    exact ⟨report, after, rfl, houtputs, hfailures,
      checkBatch_verifies Config.validate_default rfl hversion hwrite⟩

end Generator

end ContractProxy
