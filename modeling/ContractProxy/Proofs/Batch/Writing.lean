import ContractProxy.Proofs.Batch.Assignment
import ContractProxy.Proofs.File.SourceFile
import ContractProxy.Proofs.Proxy.WrittenName

/-!
A batch that is written. Each unit goes to a file of its own directly in the folder, so a unit that
was reported is still there when the batch is done, and nothing else has changed but directories on
the way to the folder.
-/

set_option autoImplicit false

namespace ContractProxy.Generator

open FileTree (Change IsPlain)

def writeFile (folder : Text) :
    Text × Outcome → StateM FileTree (Text × Except GenerateFault Text) :=
  eachFile folder fun path text => do
    pure ((← SourceFile.write path text).mapError .output)

def fileOf (tree : FileTree) (folder : Text) (unit : ProxyUnit) : Location × Bytes :=
  (tree.place folder ++ [unit.fileName], Text.utf8 unit.render)

/-- What becomes of one outcome and of the tree when its file is written. -/
inductive Write (folder : Text) (tree : FileTree) :
    Text × Outcome → Text × Except GenerateFault Text → List ProxyUnit → FileTree → Prop
  | failed {contract : Text} {fault : GenerateFault} :
    Write folder tree (contract, .error fault) (contract, .error fault) [] tree
  | refused {contract : Text} {unit : ProxyUnit} {fault : SourceFileFault} {after : FileTree}
    (hchange : Change tree folder [] after) :
    Write folder tree (contract, .ok unit) (contract, .error (.output fault)) [] after
  | placed {contract : Text} {unit : ProxyUnit} {after : FileTree}
    (hchange : Change tree folder [fileOf tree folder unit] after)
    (hread : after.read (Path.join folder unit.fileName) = .ok (Text.utf8 unit.render)) :
    Write folder tree (contract, .ok unit) (contract, .ok (Path.join folder unit.fileName)) [unit]
      after

/-- What becomes of outcomes whose files are written one after the other, with the units that got
their file. -/
inductive Writes (folder : Text) : FileTree → List (Text × Outcome) →
    List (Text × Except GenerateFault Text) → List ProxyUnit → FileTree → Prop
  | nil {tree : FileTree} : Writes folder tree [] [] [] tree
  | cons {tree middle after : FileTree} {entry : Text × Outcome}
    {result : Text × Except GenerateFault Text} {entries : List (Text × Outcome)}
    {results : List (Text × Except GenerateFault Text)} {units rest : List ProxyUnit}
    (hfirst : Write folder tree entry result units middle)
    (hrest : Writes folder middle entries results rest after) :
    Writes folder tree (entry :: entries) (result :: results) (units ++ rest) after

theorem writeFile_ok (folder contract : Text) (unit : ProxyUnit) (tree : FileTree) :
    writeFile folder (contract, .ok unit) tree =
      let path := Path.join folder unit.fileName
      let written := (SourceFile.write path unit.render : StateM FileTree _) tree
      ((contract, (written.1.mapError .output).map fun () => path), written.2) :=
  rfl

theorem write_writeFile (folder : Text) (tree : FileTree) {entry : Text × Outcome}
    (hplain : ∀ unit, entry.2 = .ok unit → IsPlain unit.fileName) :
    ∃ units, Write folder tree entry (writeFile folder entry tree).1 units
      (writeFile folder entry tree).2 := by
  obtain ⟨contract, fault | unit⟩ := entry
  · exact ⟨[], .failed⟩
  · have hfile := hplain unit rfl
    rcases hwrite : (SourceFile.write (Path.join folder unit.fileName) unit.render :
      StateM FileTree _) tree with ⟨fault | done, after⟩
    · have hchange := SourceFile.change_write hfile.separated unit.render hwrite
      simp only [writeFile_ok, hwrite]
      exact ⟨[], .refused hchange⟩
    · obtain ⟨hchange, hread⟩ := SourceFile.change_write hfile.separated unit.render hwrite
      rw [FileTree.place_join hfile] at hchange
      simp only [writeFile_ok, hwrite]
      exact ⟨[unit], .placed hchange hread⟩

theorem writes_mapM (folder : Text) (tree : FileTree) {entries : List (Text × Outcome)}
    (hplain : ∀ entry ∈ entries, ∀ unit, entry.2 = .ok unit → IsPlain unit.fileName) :
    ∃ units, Writes folder tree entries (entries.mapM (writeFile folder) tree).1 units
      (entries.mapM (writeFile folder) tree).2 := by
  induction entries generalizing tree with
  | nil => exact ⟨[], .nil⟩
  | cons entry entries ih =>
    obtain ⟨hentry, hentries⟩ := List.forall_mem_cons.mp hplain
    obtain ⟨units, hfirst⟩ := write_writeFile folder tree hentry
    obtain ⟨rest, hrest⟩ := ih (writeFile folder entry tree).2 hentries
    rw [List.mapM_cons]
    exact ⟨units ++ rest, .cons hfirst hrest⟩

theorem Write.change {folder : Text} {tree after : FileTree} {entry : Text × Outcome}
    {result : Text × Except GenerateFault Text} {units : List ProxyUnit}
    (h : Write folder tree entry result units after) :
    Change tree folder (units.map (fileOf tree folder)) after := by
  cases h with
  | failed => exact Change.refl tree folder
  | refused hchange => exact hchange
  | placed hchange _ => exact hchange

namespace Writes

variable {folder : Text} {tree after : FileTree} {entries : List (Text × Outcome)}
  {results : List (Text × Except GenerateFault Text)} {units : List ProxyUnit}

theorem change (h : Writes folder tree entries results units after) :
    Change tree folder (units.map (fileOf tree folder)) after := by
  induction h with
  | nil => exact Change.refl _ folder
  | @cons tree middle after entry result entries results units rest hfirst hrest ih =>
    have hworking := hfirst.change.working
    have hfile : fileOf middle folder = fileOf tree folder := by
      funext unit
      rw [fileOf, FileTree.place_congr hworking]
      rfl
    rw [hfile] at ih
    rw [List.map_append]
    exact hfirst.change.trans ih

theorem sublist (h : Writes folder tree entries results units after) :
    units.Sublist (successes entries) := by
  rw [successes_eq]
  induction h with
  | nil => exact List.Sublist.refl []
  | cons hfirst _ ih =>
    cases hfirst with
    | failed => exact ih
    | refused => exact ih.cons _
    | placed => exact ih.cons_cons _

theorem successes_results (h : Writes folder tree entries results units after) :
    successes results = units.map fun unit => Path.join folder unit.fileName := by
  rw [successes_eq]
  induction h with
  | nil => rfl
  | cons hfirst _ ih =>
    cases hfirst with
    | failed => exact ih
    | refused => exact ih
    | placed => exact congrArg _ ih

theorem reads (h : Writes folder tree entries results units after)
    (hplain : ∀ unit ∈ units, IsPlain unit.fileName)
    (hdistinct : (units.map ProxyUnit.fileName).Nodup) :
    ∀ unit ∈ units, after.read (Path.join folder unit.fileName) = .ok (Text.utf8 unit.render) := by
  induction h with
  | nil => simp
  | @cons tree middle after entry result entries results units rest hfirst hrest ih =>
    rw [List.map_append, List.nodup_append] at hdistinct
    obtain ⟨_, hrestDistinct, hdisjoint⟩ := hdistinct
    rw [List.forall_mem_append] at hplain ⊢
    refine ⟨?_, ih hplain.2 hrestDistinct⟩
    cases hfirst with
    | failed => simp
    | refused => simp
    | @placed _ unit _ _ hread =>
      -- A later write could only undo this one under the same file name.
      have hfile := hplain.1 unit (by simp)
      rw [List.forall_mem_singleton]
      refine hrest.change.read hread ?_
      intro content hm
      obtain ⟨other, hother, heq⟩ := List.mem_map.mp hm
      rw [FileTree.place_join hfile, fileOf, Prod.mk.injEq, List.append_right_inj] at heq
      have hsame : other.fileName = unit.fileName := by simpa using heq.1
      refine hdisjoint unit.fileName (by simp) other.fileName ?_ hsame.symm
      exact List.mem_map_of_mem hother

end Writes

/-- What a batch reports of one outcome: it failed before a file was written for it, its file could
not be written, or it is one of the units that have their file. -/
inductive Reported (folder : Text) (units : List ProxyUnit) :
    Text × Outcome → Text × Except GenerateFault Text → Prop
  | failed {contract : Text} {fault : GenerateFault} :
    Reported folder units (contract, .error fault) (contract, .error fault)
  | refused {contract : Text} {unit : ProxyUnit} {fault : SourceFileFault} :
    Reported folder units (contract, .ok unit) (contract, .error (.output fault))
  | placed {contract : Text} {unit : ProxyUnit} (hunit : unit ∈ units) :
    Reported folder units (contract, .ok unit) (contract, .ok (Path.join folder unit.fileName))

theorem Reported.mono {folder : Text} {units more : List ProxyUnit} (hsub : units ⊆ more)
    {entry : Text × Outcome} {result : Text × Except GenerateFault Text}
    (h : Reported folder units entry result) : Reported folder more entry result := by
  cases h with
  | failed => exact .failed
  | refused => exact .refused
  | placed hunit => exact .placed (hsub hunit)

theorem Writes.reported {folder : Text} {tree after : FileTree} {entries : List (Text × Outcome)}
    {results : List (Text × Except GenerateFault Text)} {units : List ProxyUnit}
    (h : Writes folder tree entries results units after) :
    List.Forall₂ (Reported folder units) entries results := by
  induction h with
  | nil => exact .nil
  | @cons tree middle after entry result entries results units rest hfirst _ ih =>
    refine .cons ?_ (ih.imp fun _ _ hreported => hreported.mono (List.subset_append_right _ _))
    cases hfirst with
    | failed => exact .failed
    | refused => exact .refused
    | placed => exact .placed (by simp)

theorem mem_fileOfClass {name : Text} (h : CSharp.isIdentifier name = true) {c : Char}
    (hm : c ∈ ClassNaming.fileOfClass name) : CSharp.continuesIdentifier c = true ∨ c = '.' := by
  rw [ClassNaming.fileOfClass, List.append_assoc] at hm
  rcases List.mem_append.mp hm with hm | hm
  · exact .inl (CSharp.continuesIdentifier_of_mem h hm)
  · have hextension : c = '.' ∨ c = 'c' ∨ c = 's' := by
      simpa [ClassNaming.fileExtension] using hm
    rcases hextension with rfl | rfl | rfl
    · exact .inr rfl
    · exact .inl (by decide)
    · exact .inl (by decide)

theorem isPlain_fileOfClass {name : Text} (h : CSharp.isIdentifier name = true) :
    IsPlain (ClassNaming.fileOfClass name) := by
  refine ⟨?_, by simp [ClassNaming.fileOfClass], ?_⟩
  · intro hm
    exact absurd (mem_fileOfClass h hm) (by decide)
  · -- A name of dots is too short for the extension.
    rw [Bool.eq_false_iff]
    intro hdots
    have hlength : 3 ≤ (ClassNaming.fileOfClass name).length := by
      simp [ClassNaming.fileOfClass, ClassNaming.fileExtension]
    rcases (Bool.or_eq_true _ _).mp hdots with heq | heq
    · rw [beq_iff_eq.mp heq] at hlength
      exact absurd hlength (by decide)
    · rw [beq_iff_eq.mp heq] at hlength
      exact absurd hlength (by decide)

theorem isPlain_fileName {generator : Generator}
    (hlead : CSharp.isIdentifier generator.template.naming.lead = true) {unit : ProxyUnit}
    (h : unit ∈ generator.batch.units) : IsPlain unit.fileName := by
  obtain ⟨type, contract, hcontract, hunit⟩ := exists_contract_of_mem h
  obtain ⟨_, _, className, _, hclass, _, rfl⟩ := ProxyTemplate.unitFor_eq_ok_iff.mp hunit
  exact isPlain_fileOfClass (ClassNaming.isIdentifier_className hlead hcontract hclass)

/-- A batch that was written, with its units that have their file. -/
structure Written (generator : Generator) (folder : Text) (tree after : FileTree)
    (results : List (Text × Except GenerateFault Text)) (units : List ProxyUnit) : Prop where
  reported : List.Forall₂ (Reported folder units) generator.selected results
  sublist : units.Sublist generator.batch.units
  outputs : successes results = units.map fun unit => Path.join folder unit.fileName
  change : Change tree folder (units.map (fileOf tree folder)) after
  reads : ∀ unit ∈ units,
    after.read (Path.join folder unit.fileName) = .ok (Text.utf8 unit.render)

theorem writeBatch_apply (generator : Generator) (folder : Text) (tree : FileTree) :
    (generator.writeBatch folder : StateM FileTree (Except GenerateFault Report)) tree =
      let made := (tree.makeDirectories folder).2
      match (tree.makeDirectories folder).1 with
      | .error fault => (.error (.file fault), made)
      | .ok () =>
        let written := generator.selected.mapM (writeFile folder) made
        (.ok (Report.ofResults "write" writtenEvent written.1), written.2) := by
  change (match (tree.makeDirectories folder).1 with
    | .error fault => pure (.error (.file fault))
    | .ok () => do
      let results ← generator.selected.mapM (writeFile folder)
      pure (.ok (Report.ofResults "write" writtenEvent results)) :
    StateM FileTree (Except GenerateFault Report)) (tree.makeDirectories folder).2 = _
  rcases tree.makeDirectories folder with ⟨fault | done, made⟩ <;> rfl

theorem written_of_writeBatch {generator : Generator}
    (hlead : CSharp.isIdentifier generator.template.naming.lead = true) {folder : Text}
    {tree after : FileTree} {outcome : Except GenerateFault Report}
    (h : (generator.writeBatch folder : StateM FileTree _) tree = (outcome, after)) :
    match outcome with
    | .error _ => Change tree folder [] after
    | .ok report => ∃ results units,
      report = Report.ofResults "write" writtenEvent results ∧
        Written generator folder tree after results units := by
  rw [writeBatch_apply] at h
  have hmade := FileTree.change_makeDirectories tree folder
  rcases hdirectories : tree.makeDirectories folder with ⟨fault | done, made⟩
  · rw [hdirectories] at h hmade
    cases h
    exact hmade
  · rw [hdirectories] at h hmade
    cases h
    have hselected : ∀ entry ∈ generator.selected, ∀ unit, entry.2 = .ok unit →
        IsPlain unit.fileName := by
      rintro ⟨contract, outcome⟩ hm unit rfl
      refine isPlain_fileName hlead ?_
      rw [batch, successes_eq]
      exact List.mem_filterMap.mpr ⟨_, hm, rfl⟩
    obtain ⟨units, hwrites⟩ := writes_mapM folder made hselected
    have hsublist : units.Sublist generator.batch.units := hwrites.sublist
    -- Files of a batch differ even if case does not count.
    have hdistinct : (units.map ProxyUnit.fileName).Nodup := by
      have hlower : ((units.map ProxyUnit.fileName).map Text.lowercase).Nodup := by
        rw [List.map_map]
        exact generator.nodup_files.sublist (hsublist.map _)
      exact hlower.of_map _
    have hchange := hmade.trans hwrites.change
    have hfile : fileOf made folder = fileOf tree folder := by
      funext unit
      rw [fileOf, FileTree.place_congr hmade.working]
      rfl
    rw [hfile, List.nil_append] at hchange
    exact ⟨_, units, rfl, hwrites.reported, hsublist, hwrites.successes_results, hchange,
      hwrites.reads (fun unit hm => isPlain_fileName hlead (hsublist.subset hm)) hdistinct⟩

end ContractProxy.Generator
