import ContractProxy.Proofs.Batch.Writing
import ContractProxy.Proofs.File.Folder

/-!
A unit that is written by itself, under an accepted configuration. Its name is a plain one, so
whether it gets its file is a matter of room alone: the name of the file may have 243 bytes, as the
name of its staging file has 12 more.
-/

set_option autoImplicit false

namespace ContractProxy.Config

open Generator (isPlain_fileOfClass mem_fileOfClass)
open SourceFile (Placing placing_write)

theorem placing_fileOfClass {name : Text} (hnamed : CSharp.isIdentifier name = true)
    {tree : FileTree} {folder : Text} (hfolder : tree.IsFolder folder)
    (hfree : tree.entry? (tree.place folder ++ [ClassNaming.fileOfClass name]) ≠ some .directory)
    (contents : Text) :
    ∃ result after,
      (SourceFile.write (Path.join folder (ClassNaming.fileOfClass name)) contents :
        StateM FileTree _) tree = (result, after) ∧
      Placing tree folder (ClassNaming.fileOfClass name) contents result after := by
  have hnul : '\x00' ∉ ClassNaming.fileOfClass name := fun hm =>
    absurd (mem_fileOfClass hnamed hm) (by decide)
  exact placing_write hfolder (isPlain_fileOfClass hnamed) hnul hfree contents

/-- A unit is written to a folder that is there, where no directory has its name, exactly if its
path is short enough and there is room for a staging file beside it. Otherwise nothing changes. -/
theorem placing_unit {bytes : Bytes} {config : Config} (hconfig : ofBytes bytes = .ok config)
    {type : TypeDeclaration} {contract : Contract} (hcontract : Contract.ofType type = .ok contract)
    {scope : Text} {unit : ProxyUnit} (hunit : config.template.unitFor scope contract = .ok unit)
    {tree : FileTree} {folder : Text} (hfolder : tree.IsFolder folder)
    (hfree : tree.entry? (tree.place folder ++ [unit.fileName]) ≠ some .directory) :
    ∃ result after,
      (SourceFile.write (Path.join folder unit.fileName) unit.render : StateM FileTree _) tree =
        (result, after) ∧ Placing tree folder unit.fileName unit.render result after := by
  obtain ⟨_, _, className, _, hclass, _, rfl⟩ := ProxyTemplate.unitFor_eq_ok_iff.mp hunit
  have hnamed := isIdentifier_className (sound_of_ofBytes hconfig) hcontract hclass
  exact placing_fileOfClass hnamed hfolder hfree _

theorem ofBytes_empty : ofBytes (Text.utf8 "") = .ok default :=
  ofBytes_utf8 (by decide) (by decide +kernel) validate_default

theorem isFolder_dot : FileTree.empty.IsFolder "." := by
  unfold FileTree.IsFolder
  decide

theorem placing_unit_thing :
    ofBytes (Text.utf8 "") = .ok default ∧
      Contract.ofType (markedType 'I' "Thing") = .ok ⟨"IThing", "IThing", []⟩ ∧
      ∃ unit after, default.template.unitFor "Acme.Proxies" ⟨"IThing", "IThing", []⟩ = .ok unit ∧
        FileTree.empty.IsFolder "." ∧
        FileTree.empty.entry? (FileTree.empty.place "." ++ [unit.fileName]) ≠ some .directory ∧
        (SourceFile.write (Path.join "." unit.fileName) unit.render : StateM FileTree _) .empty =
          (.ok (), after) ∧
        after.read "./RestartableThing.cs" = .ok (Text.utf8 unit.render) := by
  have htype : Contract.ofType (markedType 'I' "Thing") = .ok ⟨"IThing", "IThing", []⟩ := by decide
  have hclass : default.naming.className "IThing" = .ok "RestartableThing" := by decide
  have hunit : default.template.unitFor "Acme.Proxies" ⟨"IThing", "IThing", []⟩ = .ok _ :=
    ProxyTemplate.unitFor_memberless (by decide) hclass
  have hfits : FileTree.empty.Fits "." "RestartableThing.cs" :=
    ⟨by decide +kernel, by decide +kernel, by decide +kernel, 0, by decide, by decide +kernel⟩
  obtain ⟨result, after, hwrite, hplacing⟩ :=
    placing_unit ofBytes_empty htype hunit isFolder_dot (by decide)
  cases hplacing with
  | placed _ _ hread =>
    exact ⟨ofBytes_empty, htype, _, after, hunit, isFolder_dot, by decide, hwrite, hread⟩
  | overlong hlong => exact absurd hlong (by decide +kernel)
  | refused _ hother => exact absurd hfits hother

/-- An interface whose file has a name of 244 bytes: a file may have it, and a staging file of that
file may not. -/
def longType : TypeDeclaration :=
  markedType 'I' (List.replicate 230 'a')

def longContract : Contract :=
  ⟨longType.name, longType.name, []⟩

theorem write_unit_overlong :
    ofBytes (Text.utf8 "") = .ok default ∧ Contract.ofType longType = .ok longContract ∧
      ∃ unit, default.template.unitFor "Acme.Proxies" longContract = .ok unit ∧
        Text.byteLength unit.fileName = 244 ∧ FileTree.empty.IsFolder "." ∧
        FileTree.empty.entry? (FileTree.empty.place "." ++ [unit.fileName]) ≠ some .directory ∧
        ∀ after, (SourceFile.write (Path.join "." unit.fileName) unit.render : StateM FileTree _)
          .empty ≠ (.ok (), after) := by
  let className := default.lead ++ List.replicate 230 'a'
  have htype : Contract.ofType longType = .ok longContract := ofType_markedType (by decide +kernel)
  have hclass : default.naming.className longContract.name = .ok className := by decide +kernel
  have hunit : default.template.unitFor "Acme.Proxies" longContract = .ok _ :=
    ProxyTemplate.unitFor_memberless (by decide) hclass
  have hlength : Text.byteLength (ClassNaming.fileOfClass className) = 244 := by decide +kernel
  have hfree : FileTree.empty.entry? (FileTree.empty.place "." ++
      [ClassNaming.fileOfClass className]) ≠ some .directory := by
    decide +kernel
  refine ⟨ofBytes_empty, htype, _, hunit, hlength, isFolder_dot, hfree, fun after hwrite => ?_⟩
  obtain ⟨_, _, hfound, hplacing⟩ :=
    placing_fileOfClass (by decide +kernel) isFolder_dot hfree _
  have hsame := hfound.symm.trans hwrite
  cases hsame
  cases hplacing with
  | placed hfits _ _ =>
    have hname := hfits.room.name
    rw [hlength] at hname
    exact absurd hname (by decide)

end ContractProxy.Config
