import ContractProxy.Proofs.File.Change

/-!
Writing a source file below a folder changes that file and directories on the way to the folder, and
reading it gives the text back. Checking a file changes nothing.
-/

set_option autoImplicit false

namespace ContractProxy.SourceFile

open FileTree (Change)

theorem write_apply (path contents : Text) (tree : FileTree) :
    (write path contents : StateM FileTree (Except SourceFileFault Unit)) tree =
      match Path.fileName? path with
      | none => (.error (.unnamed path), tree)
      | some name =>
        let made := (tree.makeDirectories (directoryOf path)).2
        match (tree.makeDirectories (directoryOf path)).1 with
        | .error fault => (.error (.creating (directoryOf path) fault), made)
        | .ok () =>
          let replaced := made.replaceFile (directoryOf path) name path (Text.utf8 contents)
          (replaced.1.mapError (.replacing path), replaced.2) := by
  unfold write
  cases Path.fileName? path with
  | none => rfl
  | some name =>
    change (match (tree.makeDirectories (directoryOf path)).1 with
      | .error fault => pure (.error (.creating (directoryOf path) fault))
      | .ok () => do
        let replaced ← FileStore.replaceFile (directoryOf path) name path (Text.utf8 contents)
        pure (replaced.mapError (.replacing path)) :
        StateM FileTree (Except SourceFileFault Unit))
      (tree.makeDirectories (directoryOf path)).2 = _
    rcases tree.makeDirectories (directoryOf path) with ⟨fault | done, made⟩ <;> rfl

theorem change_write {folder file : Text} (hfile : Path.separator ∉ file) (contents : Text)
    {tree after : FileTree} {result : Except SourceFileFault Unit}
    (h : (write (Path.join folder file) contents : StateM FileTree _) tree = (result, after)) :
    match result with
    | .ok () =>
      Change tree folder [(tree.place (Path.join folder file), Text.utf8 contents)] after ∧
        after.read (Path.join folder file) = .ok (Text.utf8 contents)
    | .error _ => Change tree folder [] after := by
  rw [write_apply] at h
  cases hname : Path.fileName? (Path.join folder file) with
  | none =>
    rw [hname] at h
    cases h
    exact Change.refl tree folder
  | some name =>
    rw [hname] at h
    have hmade := FileTree.change_directoryOf tree hfile folder
    rcases hdirectories : tree.makeDirectories (directoryOf (Path.join folder file)) with
      ⟨fault | done, made⟩
    · rw [hdirectories] at h hmade
      cases h
      exact hmade
    · rw [hdirectories] at h hmade
      rcases hreplaced : made.replaceFile (directoryOf (Path.join folder file)) name
        (Path.join folder file) (Text.utf8 contents) with ⟨fault | done, last⟩
      · simp only [hreplaced] at h
        cases h
        exact hmade.trans (FileTree.change_replaceFile_of_error folder hreplaced)
      · simp only [hreplaced] at h
        cases h
        obtain ⟨hchange, hread⟩ := FileTree.change_replaceFile folder hreplaced
        rw [FileTree.place_congr hmade.working] at hchange
        exact ⟨hmade.trans hchange, hread⟩

def readText (tree : FileTree) (path : Text) : Except FileFault Text :=
  match tree.read path with
  | .error fault => .error fault
  | .ok bytes =>
    match Text.ofUtf8? bytes with
    | some t => .ok t
    | none => .error .notUtf8

theorem readText_apply (path : Text) (tree : FileTree) :
    (FileStore.readText path : StateM FileTree (Except FileFault Text)) tree =
      (readText tree path, tree) := by
  change (match tree.read path with
    | .error fault => pure (.error fault)
    | .ok bytes =>
      match Text.ofUtf8? bytes with
      | some t => pure (.ok t)
      | none => pure (.error .notUtf8) : StateM FileTree (Except FileFault Text)) tree = _
  unfold readText
  rcases tree.read path with fault | bytes
  · rfl
  · simp only
    cases Text.ofUtf8? bytes <;> rfl

theorem readText_of_read {tree : FileTree} {path t : Text}
    (h : tree.read path = .ok (Text.utf8 t)) : readText tree path = .ok t := by
  rw [readText, h]
  simp only [Text.ofUtf8?_utf8]

def checked (tree : FileTree) (path contents : Text) : Except Drift Unit :=
  match readText tree path with
  | .error fault => .error (.unreadable fault)
  | .ok existing =>
    match Difference.between contents existing with
    | none => .ok ()
    | some difference => .error (.differs difference)

theorem check_apply (path contents : Text) (tree : FileTree) :
    (check path contents : StateM FileTree (Except Drift Unit)) tree =
      (checked tree path contents, tree) := by
  change (match ((FileStore.readText path : StateM FileTree (Except FileFault Text)) tree).1 with
    | .error fault => pure (.error (.unreadable fault))
    | .ok existing =>
      match Difference.between contents existing with
      | none => pure (.ok ())
      | some difference => pure (.error (.differs difference)) :
    StateM FileTree (Except Drift Unit))
      ((FileStore.readText path : StateM FileTree (Except FileFault Text)) tree).2 = _
  rw [readText_apply]
  unfold checked
  cases readText tree path with
  | error fault => rfl
  | ok existing =>
    simp only
    cases Difference.between contents existing <;> rfl

end ContractProxy.SourceFile
