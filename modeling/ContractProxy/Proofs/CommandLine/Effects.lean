import ContractProxy.CommandLine.Run
import ContractProxy.Proofs.Batch.Checking

/-!
What a run of the program does to files. Everything that a batch needs is read before anything is
written. Main statement: listing and checking change nothing, and generating changes nothing but the
files it reports and directories on the way to the target folder.
-/

set_option autoImplicit false

namespace ContractProxy

/-- Actions that leave every tree as it is. -/
def Reads {α : Type} (action : StateM FileTree α) : Prop :=
  ∀ tree, (action tree).2 = tree

namespace Reads

variable {α β : Type} {action : StateM FileTree α} {next : α → StateM FileTree β}

theorem pure (value : α) : Reads (Pure.pure value) := fun _ => rfl

theorem bind_apply (h : Reads action) (tree : FileTree) :
    (action >>= next) tree = next (action tree).1 tree := by
  change next (action tree).1 (action tree).2 = _
  rw [h tree]

theorem bind (h : Reads action) (hnext : ∀ value, Reads (next value)) :
    Reads (action >>= next) := by
  intro tree
  rw [h.bind_apply, hnext _ tree]

theorem readBytes (path : Text) :
    Reads (FileStore.readBytes path : StateM FileTree (Except FileFault Bytes)) := fun _ => rfl

end Reads

theorem Config.reads_load (path : Option Text) (setting : Option Bytes) :
    Reads (Config.load path setting) := by
  unfold Config.load
  extract_lets location
  split
  · exact Reads.pure _
  · refine (Reads.readBytes _).bind fun result => ?_
    split
    · exact Reads.pure _
    · split_ifs
      · exact Reads.pure _
      · exact Reads.pure _

theorem Config.sound_of_load {path : Option Text} {setting : Option Bytes} {tree : FileTree}
    {config : Config}
    (h : ((Config.load path setting : StateM FileTree _) tree).1 = .ok config) :
    config.Sound := by
  unfold Config.load at h
  cases hlimits : checkLimits (locate path setting).path with
  | error fault =>
    rw [hlimits] at h
    cases h
  | ok done =>
    simp only [hlimits, (Reads.readBytes _).bind_apply] at h
    cases hread : ((FileStore.readBytes (locate path setting).path : StateM FileTree _) tree).1 with
    | ok bytes =>
      rw [hread] at h
      exact sound_of_ofBytes h
    | error fault =>
      rw [hread] at h
      simp only at h
      split_ifs at h
      · cases h
        exact sound_of_validate validate_default
      · cases h

theorem Assembly.reads_load (path : Text) : Reads (Assembly.load path) := by
  refine (Reads.readBytes path).bind fun result => ?_
  split
  · exact Reads.pure _
  · exact Reads.pure _

theorem Generator.reads_checkBatch (generator : Generator) (folder : Text) :
    Reads (generator.checkBatch folder) := by
  intro tree
  rw [checkBatch_apply]

namespace CommandLine

open FileTree (Change IsPlain)
open Generator (Reported fileOf writtenEvent)

/-- What is read before a batch: the configuration, the inputs and the assembly, or the failure that
ends the run. -/
def gather (setting : Option Bytes) (request : Request) (tree : FileTree) :
    Except Text (Generator × Text) :=
  match ((Config.load request.config setting : StateM FileTree _) tree).1 with
  | .error fault => .error fault.message
  | .ok config =>
    match resolve request config with
    | .error failure => .error failure
    | .ok inputs =>
      match ((Assembly.load inputs.source : StateM FileTree _) tree).1 with
      | .error fault => .error (unloadable inputs.source fault)
      | .ok assembly =>
        .ok (⟨assembly, inputs.scope, config.template, request.contract⟩, inputs.target)

theorem reads_runList (request : Request) (config : Config) :
    Reads (runList request config) := by
  unfold runList
  split
  · exact Reads.pure _
  · refine (Assembly.reads_load _).bind fun result => ?_
    split
    · exact Reads.pure _
    · exact Reads.pure _

theorem reads_runCheck (request : Request) (config : Config) :
    Reads (runCheck request config) := by
  unfold runCheck withGenerator
  split
  · exact Reads.pure _
  · refine (Assembly.reads_load _).bind fun result => ?_
    split
    · exact Reads.pure _
    · exact (Generator.reads_checkBatch _ _).bind fun report => Reads.pure _

theorem reads_run {request : Request} (h : request.verb ≠ .generate) (setting : Option Bytes) :
    Reads (run setting request) := by
  refine (Config.reads_load _ _).bind fun result => ?_
  split
  · exact Reads.pure _
  · split
    · rename_i hverb
      exact absurd hverb h
    · exact reads_runCheck request _
    · exact reads_runList request _

theorem run_generate {setting : Option Bytes} {request : Request} (h : request.verb = .generate)
    (tree : FileTree) :
    (run setting request : StateM FileTree Transcript) tree =
      match gather setting request tree with
      | .error failure => (.refused failure, tree)
      | .ok (generator, target) =>
        match (generator.writeBatch target : StateM FileTree _) tree with
        | (.error fault, after) => (.refused ("generation failed: " ++ fault.message), after)
        | (.ok report, after) =>
          (tell request.level "generated" "failed to generate" report, after) := by
  -- Both sides come to the same cases, since what is read leaves the tree for the next to read.
  unfold run gather
  rw [(Config.reads_load _ _).bind_apply]
  cases ((Config.load request.config setting : StateM FileTree _) tree).1 with
  | error fault => rfl
  | ok config =>
    simp only [h, runGenerate, withGenerator]
    cases resolve request config with
    | error failure => rfl
    | ok inputs =>
      simp only
      rw [(Assembly.reads_load _).bind_apply]
      cases ((Assembly.load inputs.source : StateM FileTree _) tree).1 with
      | error fault => rfl
      | ok assembly =>
        have hbind : ∀ (action : StateM FileTree (Except GenerateFault Generator.Report))
            (next : Except GenerateFault Generator.Report → StateM FileTree Transcript),
            (action >>= next) tree = next (action tree).1 (action tree).2 := fun _ _ => rfl
        simp only [hbind]
        generalize (Generator.writeBatch _ _ : StateM FileTree _) tree = written
        obtain ⟨fault | report, after⟩ := written
        · rfl
        · rfl

theorem isIdentifier_of_gather {setting : Option Bytes} {request : Request} {tree : FileTree}
    {generator : Generator} {folder : Text}
    (h : gather setting request tree = .ok (generator, folder)) :
    CSharp.isIdentifier generator.template.naming.lead = true := by
  unfold gather at h
  split at h
  · cases h
  · rename_i config hload
    split at h
    · cases h
    · split at h
      · cases h
      · cases h
        exact (Config.sound_of_load hload).lead

theorem output_tell (level : Level) (done undone : Text) (report : Generator.Report) :
    (tell level done undone report).output = report.outputs.map (done ++ " " ++ ·) := by
  unfold tell
  simp only
  split_ifs <;> rfl

theorem stagingName_ne_fileName (file tag : Text) (unit : ProxyUnit) :
    FileStore.stagingName file tag ≠ unit.fileName := by
  intro h
  have hlast := congrArg List.getLast? h
  rw [FileStore.stagingName, ProxyUnit.fileName, ClassNaming.fileOfClass, List.getLast?_append,
    List.getLast?_append] at hlast
  simp [ClassNaming.fileExtension] at hlast

/-- What generating tells: that the folder could not be made, or the result of each contract. -/
inductive Told (generator : Generator) (folder : Text) (level : Level) :
    List ProxyUnit → Transcript → Prop
  | refused (fault : GenerateFault) :
    Told generator folder level [] (.refused ("generation failed: " ++ fault.message))
  | batch {units : List ProxyUnit} {results : List (Text × Except GenerateFault Text)}
    (hreported : List.Forall₂ (Reported folder units) generator.selected results) :
    Told generator folder level units (tell level "generated" "failed to generate"
      (Generator.Report.ofResults "write" writtenEvent results))

/-- How generating leaves a tree, given the units whose files it reports. -/
structure Generated (generator : Generator) (folder : Text) (level : Level)
    (tree after : FileTree) (transcript : Transcript) (units : List ProxyUnit) : Prop where
  told : Told generator folder level units transcript
  output : transcript.output = units.map fun unit => "generated " ++ Path.join folder unit.fileName
  selected : units.Sublist generator.batch.units
  change : Change tree folder (units.map (fileOf tree folder)) after
  plain : ∀ unit ∈ units, IsPlain unit.fileName
  holds : ∀ unit ∈ units,
    after.entry? (tree.place folder ++ [unit.fileName]) = some (.file (Text.utf8 unit.render))
  reads : ∀ unit ∈ units,
    after.read (Path.join folder unit.fileName) = .ok (Text.utf8 unit.render)
  kept : ∀ location entry, tree.entry? location = some entry →
    (∀ unit ∈ units, location ≠ tree.place folder ++ [unit.fileName]) →
      after.entry? location = some entry
  unstaged : ∀ directory file tag content,
    after.entry? (directory ++ [FileStore.stagingName file tag]) = some (.file content) →
      tree.entry? (directory ++ [FileStore.stagingName file tag]) = some (.file content)

theorem generated_of_change {generator : Generator} {folder : Text} {level : Level}
    {tree after : FileTree} {transcript : Transcript} {units : List ProxyUnit}
    (hlead : CSharp.isIdentifier generator.template.naming.lead = true)
    (htold : Told generator folder level units transcript)
    (houtput : transcript.output =
      units.map fun unit => "generated " ++ Path.join folder unit.fileName)
    (hselected : units.Sublist generator.batch.units)
    (hchange : Change tree folder (units.map (fileOf tree folder)) after)
    (hreads : ∀ unit ∈ units,
      after.read (Path.join folder unit.fileName) = .ok (Text.utf8 unit.render)) :
    Generated generator folder level tree after transcript units := by
  have hplain : ∀ unit ∈ units, IsPlain unit.fileName := fun unit hm =>
    Generator.isPlain_fileName hlead (hselected.subset hm)
  refine ⟨htold, houtput, hselected, hchange, hplain, ?_, hreads, ?_, ?_⟩
  · intro unit hm
    have hentry := FileTree.entry?_of_read (hreads unit hm)
    rwa [FileTree.place_congr hchange.working, FileTree.place_join (hplain unit hm)] at hentry
  · intro location entry hentry hother
    refine hchange.keeps hentry ?_
    intro content hm
    obtain ⟨unit, hunit, heq⟩ := List.mem_map.mp hm
    exact hother unit hunit (congrArg Prod.fst heq).symm
  · intro directory file tag content hafter
    cases hchange.fate (directory ++ [FileStore.stagingName file tag]) with
    | kept hsame => rw [← hsame, hafter]
    | made _ hdirectory _ => simp [hafter] at hdirectory
    | put _ hwritten _ _ =>
      -- A file that was written is not a staging file.
      obtain ⟨unit, _, heq⟩ := List.mem_map.mp hwritten
      obtain ⟨_, hname⟩ := List.append_inj' (congrArg Prod.fst heq) rfl
      exact absurd (List.singleton_inj.mp hname).symm (stagingName_ne_fileName file tag unit)

/-- Listing and checking leave every tree as it is, and so does generating when the configuration,
the inputs or the assembly cannot be had. Else generating changes the files that it reports, which
lie directly in the target folder and hold their units, and makes directories on the way to that
folder; every other file stays, and no staging file is left. -/
theorem run_effects (setting : Option Bytes) (request : Request) (tree : FileTree) :
    let ended := (run setting request : StateM FileTree Transcript) tree
    match request.verb with
    | .list | .check => ended.2 = tree
    | .generate =>
      match gather setting request tree with
      | .error failure => ended = (.refused failure, tree)
      | .ok (generator, folder) =>
        ∃ units, Generated generator folder request.level tree ended.2 ended.1 units := by
  intro ended
  cases hverb : request.verb with
  | list => exact reads_run (by simp [hverb]) setting tree
  | check => exact reads_run (by simp [hverb]) setting tree
  | generate =>
    have hended : ended = _ := run_generate hverb tree
    rw [hended]
    cases hgather : gather setting request tree with
    | error failure => rfl
    | ok gathered =>
      obtain ⟨generator, folder⟩ := gathered
      have hlead := isIdentifier_of_gather hgather
      simp only
      cases hwrite : (generator.writeBatch folder : StateM FileTree _) tree with
      | mk outcome after =>
        have hwritten := Generator.written_of_writeBatch hlead hwrite
        cases outcome with
        | error fault =>
          -- The folder could not be made, so no file was reached.
          exact ⟨[], generated_of_change hlead (.refused fault) rfl (List.nil_sublist _) hwritten
            (by simp)⟩
        | ok report =>
          obtain ⟨results, units, rfl, hwritten⟩ := hwritten
          refine ⟨units, generated_of_change hlead (.batch hwritten.reported) ?_ hwritten.sublist
            hwritten.change hwritten.reads⟩
          rw [output_tell]
          change (Generator.successes results).map _ = _
          rw [hwritten.outputs, List.map_map]
          rfl

end CommandLine

end ContractProxy
