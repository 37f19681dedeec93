import ContractProxy.Proofs.File.SourceFile

/-!
Files in a folder that is there. No directory is made for them, and whether one can be written is a
matter of room: for its path, and for a staging file beside it, whose name is longer.
-/

set_option autoImplicit false

namespace ContractProxy.FileTree

variable {tree : FileTree}

theorem isDirectory_iff_resolve {path : Text} :
    tree.isDirectory path = true ↔ tree.resolve path = .ok (tree.place path) ∧
      tree.entry? (tree.place path) = some .directory := by
  unfold FileTree.isDirectory
  constructor
  · intro h
    cases hresolve : tree.resolve path with
    | error fault =>
      rw [hresolve] at h
      cases h
    | ok location =>
      rw [hresolve] at h
      rw [place_of_resolve hresolve]
      exact ⟨rfl, by simpa using h⟩
  · rintro ⟨hresolve, hdirectory⟩
    rw [hresolve]
    simpa using hdirectory

theorem isDirectory_iff {path : Text} :
    tree.isDirectory path = true ↔ IsPath path ∧
      (Path.names path).foldlM tree.step (tree.start path) = .ok (tree.place path) ∧
      tree.entry? (tree.place path) = some .directory := by
  rw [isDirectory_iff_resolve, resolve_eq_ok_iff]
  constructor
  · rintro ⟨⟨hpath, hfound, _⟩, hdirectory⟩
    exact ⟨hpath, hfound, hdirectory⟩
  · rintro ⟨hpath, hfound, hdirectory⟩
    exact ⟨⟨hpath, hfound, fun _ => hdirectory⟩, hdirectory⟩

theorem resolveLast_of_isDirectory {path : Text} (h : tree.isDirectory path = true) :
    ∃ above name slashed, tree.resolveLast path = .ok (above, name, slashed) ∧
      ∀ last ∈ name, isDots last = false →
        Text.byteLength last ≤ longestName ∧ (tree.entry? (above ++ [last])).isSome = true := by
  obtain ⟨hpath, hfound, hdirectory⟩ := isDirectory_iff.mp h
  rcases List.eq_nil_or_concat (Path.names path) with hnames | ⟨front, last, hnames⟩
  · rw [hnames] at hfound
    refine ⟨_, none, _, resolveLast_eq_ok_iff.mpr ⟨hpath, ?_, hdirectory, ?_, rfl⟩, by simp⟩
    · rw [hnames]
      exact hfound
    · rw [hnames]
      rfl
  · rw [List.concat_eq_append] at hnames
    rw [hnames, List.foldlM_append] at hfound
    obtain ⟨above, habove, hstep⟩ := bind_eq_ok_iff.mp hfound
    rw [List.foldlM_cons] at hstep
    obtain ⟨next, hstep, hend⟩ := bind_eq_ok_iff.mp hstep
    cases hend
    obtain ⟨hentry, hfollow, hfits⟩ := step_eq_ok_iff.mp hstep
    refine ⟨above, some last, _, resolveLast_eq_ok_iff.mpr ⟨hpath, ?_, hentry, ?_, rfl⟩, ?_⟩
    · rw [hnames, List.dropLast_concat]
      exact habove
    · rw [hnames, List.getLast?_concat]
    · rintro _ ⟨⟩ hdots
      rw [← hfollow, follow_of_not_isDots hdots] at hfits
      exact hfits hdots

theorem makeDirectory_of_isDirectory {path : Text} (h : tree.isDirectory path = true) :
    tree.makeDirectory path = .error .exists := by
  obtain ⟨above, name, slashed, hlast, hentry⟩ := resolveLast_of_isDirectory h
  rw [makeDirectory, hlast]
  simp only [bind, Except.bind]
  cases name with
  | none => rfl
  | some last =>
    simp only
    split_ifs with hdots hlong hsome
    · rfl
    · exact absurd (hentry last rfl (by simpa using hdots)).1 (Nat.not_le.mpr hlong)
    · rfl
    · exact absurd (hentry last rfl (by simpa using hdots)).2 hsome

theorem makeDirectories_of_isDirectory {path : Text} (h : tree.isDirectory path = true) :
    tree.makeDirectories path = (.ok (), tree) := by
  have hancestors : ∃ above, Path.ancestors path.length path = path :: above := by
    cases path.length with
    | zero => exact ⟨[], rfl⟩
    | succ fuel =>
      rw [Path.ancestors]
      split
      · exact ⟨_, rfl⟩
      · exact ⟨_, rfl⟩
  obtain ⟨above, habove⟩ := hancestors
  have hne : path ≠ [] := (isDirectory_iff.mp h).1.nonempty
  have hmade := makeDirectory_of_isDirectory h
  have hmissing : tree.missing (path :: above) = [path] := by
    rw [missing, if_neg (by simpa using hne), hmade]
  rw [makeDirectories, habove, hmissing, List.reverse_singleton, makeEach, hmade]
  simp only [h, if_true]
  rfl

/-- A folder that is there; an empty path stands for the working directory. -/
def IsFolder (tree : FileTree) (folder : Text) : Prop :=
  tree.isDirectory (if folder.isEmpty then "." else folder) = true

theorem foldl_follow_dots {dots : List Text} (h : ∀ name ∈ dots, name = ".")
    (location : Location) : dots.foldl follow location = location := by
  induction dots with
  | nil => rfl
  | cons name rest ih =>
    obtain ⟨rfl, hrest⟩ := List.forall_mem_cons.mp h
    exact ih hrest

theorem IsFolder.follows {folder : Text} (h : tree.IsFolder folder) :
    '\x00' ∉ folder ∧
      (Path.names folder).foldlM tree.step (tree.start folder) = .ok (tree.place folder) ∧
      tree.entry? (tree.place folder) = some .directory := by
  unfold IsFolder at h
  split_ifs at h with hempty
  · obtain rfl := List.isEmpty_iff.mp hempty
    obtain ⟨_, _, hdirectory⟩ := isDirectory_iff.mp h
    exact ⟨List.not_mem_nil, rfl, hdirectory⟩
  · obtain ⟨hpath, hfound, hdirectory⟩ := isDirectory_iff.mp h
    exact ⟨hpath.nulFree, hfound, hdirectory⟩

variable {folder file : Text}

theorem IsPlain.isName (h : IsPlain file) : Path.isName file = true := by
  obtain ⟨hdot, hdouble⟩ := (Bool.or_eq_false_iff).mp h.undotted
  have hempty : file.isEmpty = false := by simpa using h.nonempty
  rw [Path.isName, Path.isIdle, hempty, hdot, bne, hdouble]
  rfl

theorem IsFolder.directoryOf (h : tree.IsFolder folder) (hfile : IsPlain file) :
    tree.isDirectory (SourceFile.directoryOf (Path.join folder file)) = true ∧
      tree.place (SourceFile.directoryOf (Path.join folder file)) = tree.place folder := by
  by_cases hempty : folder = []
  · subst hempty
    rw [Path.directoryOf_join_nil hfile.separated hfile.isName]
    exact ⟨h, rfl⟩
  · obtain ⟨hne, hfront, dots, hnames, hdots⟩ :=
      Path.directoryOf_join_of_ne hfile.separated hfile.isName hempty
    generalize SourceFile.directoryOf (Path.join folder file) = directory at hne hfront hnames
    have hstart : tree.start directory = tree.start folder := by
      rw [FileTree.start, Path.isAbsolute_front hne hfront]
      rfl
    have hplace : tree.place directory = tree.place folder := by
      rw [place, place, hnames, List.foldl_append, foldl_follow_dots hdots, hstart]
    have hfolder : tree.isDirectory folder = true := by
      rwa [IsFolder, if_neg (by simpa using hempty)] at h
    obtain ⟨hpath, hfound, hentry⟩ := isDirectory_iff.mp hfolder
    rw [hnames, List.foldlM_append] at hfound
    obtain ⟨location, hfound, _⟩ := bind_eq_ok_iff.mp hfound
    refine ⟨isDirectory_iff.mpr ⟨⟨?_, ?_, hne⟩, ?_, by rw [hplace, hentry]⟩, hplace⟩
    · exact fun hm => hpath.nulFree (hfront.subset hm)
    · obtain ⟨rest, rfl⟩ := hfront
      have hshort := hpath.short
      rw [Text.byteLength_append] at hshort
      omega
    · rw [hstart, hfound, ← follow_of_foldlM hfound, ← hstart]
      rfl

section Moving

variable (h : tree.IsFolder folder) (hfile : IsPlain file) (hnul : '\x00' ∉ file)
  (hpath : Text.byteLength (Path.join folder file) ≤ longestPath)

include h hfile hnul hpath

theorem resolveLast_join {after : FileTree} (hworking : after.working = tree.working)
    (hkept : ∀ l, tree.entry? l = some .directory → after.entry? l = some .directory) :
    after.resolveLast (Path.join folder file) = .ok (tree.place folder, some file, false) := by
  obtain ⟨hfolderNul, hfound, hdirectory⟩ := h.follows
  obtain ⟨front, hjoin, hfront⟩ := Path.exists_front hfile.separated folder
  have hnames := Path.names_join hfile.separated hfile.nonempty folder
  refine resolveLast_eq_ok_iff.mpr ⟨⟨?_, hpath, ?_⟩, ?_, hkept _ hdirectory, ?_, ?_⟩
  · rw [hjoin, List.mem_append, not_or]
    refine ⟨fun hm => ?_, hnul⟩
    rcases hfront _ hm with hseparator | hm
    · exact absurd hseparator (by decide)
    · exact hfolderNul hm
  · simp [hjoin, hfile.nonempty]
  · rw [hnames, List.dropLast_concat, start_congr hworking, start_join hfile.separated]
    exact foldlM_step_mono hkept hfound (by rw [hkept _ hdirectory]; rfl)
  · rw [hnames, List.getLast?_concat]
  · rw [hjoin, List.getLast?_append_of_ne_nil _ hfile.nonempty, beq_eq_false_iff_ne]
    exact fun hlast => hfile.separated (List.mem_of_getLast? hlast)

theorem moveFile_join (hname : Text.byteLength file ≤ longestName)
    (hfree : tree.entry? (tree.place folder ++ [file]) ≠ some .directory) {source : Location}
    (hne : source ≠ []) (habsent : tree.entry? source = none) (content : Bytes) :
    ∃ after, (tree.insert source (.file content)).moveFile source (Path.join folder file) =
      .ok after := by
  have hstaged := tree.entry?_insert hne (.file content)
  have hkept : ∀ l, tree.entry? l = some .directory →
      entry? (tree.insert source (.file content)) l = some .directory := by
    intro l hl
    rw [hstaged, if_neg, hl]
    rintro rfl
    rw [habsent] at hl
    cases hl
  have htarget : entry? (tree.insert source (.file content)) (tree.place folder ++ [file]) ≠
      some .directory := by
    rw [hstaged]
    split_ifs
    · simp
    · exact hfree
  have hlast : (tree.insert source (.file content)).resolveLast (Path.join folder file) =
      .ok (tree.place folder, some file, false) :=
    resolveLast_join h hfile hnul hpath rfl hkept
  rw [moveFile, hlast]
  simp only [bind, Except.bind, hstaged source, if_true, hfile.undotted, Bool.false_eq_true,
    if_false, Nat.not_lt.mpr hname, beq_false_of_ne htarget, Except.ok.injEq, exists_eq']

end Moving

/-- What it takes to write a file in a folder. -/
structure Fits (tree : FileTree) (folder file : Text) : Prop where
  path : Text.byteLength (Path.join folder file) ≤ longestPath
  room : tree.HasRoom (SourceFile.directoryOf (Path.join folder file)) file (tree.place folder)

theorem replaceFile_join_iff (h : tree.IsFolder folder) (hfile : IsPlain file)
    (hnul : '\x00' ∉ file) (hfree : tree.entry? (tree.place folder ++ [file]) ≠ some .directory)
    (content : Bytes) :
    (tree.replaceFile (SourceFile.directoryOf (Path.join folder file)) file
      (Path.join folder file) content).1 = .ok () ↔ tree.Fits folder file := by
  obtain ⟨hdirectory, hplace⟩ := h.directoryOf hfile
  have hresolve := (isDirectory_iff_resolve.mp hdirectory).1
  rw [hplace] at hresolve
  rcases tree.replaceFile_cases (SourceFile.directoryOf (Path.join folder file)) file
    (Path.join folder file) content with
    ⟨fault, hreplaced, hmove⟩ | ⟨location, name, after, hreplaced, hlocation, hroom, _, hmoved⟩
  · rw [hreplaced]
    refine ⟨fun hok => (nomatch hok), fun hfits => ?_⟩
    obtain ⟨name, habsent, fault, hmoved⟩ := hmove _ hresolve hfits.room
    have hname : Text.byteLength file ≤ longestName := by
      have hlonger := hfits.room.name
      omega
    obtain ⟨after, hok⟩ :=
      moveFile_join h hfile hnul hfits.path hname hfree (by simp) habsent content
    rw [hok] at hmoved
    cases hmoved
  · rw [hreplaced]
    refine ⟨fun _ => ⟨?_, ?_⟩, fun _ => rfl⟩
    · obtain ⟨_, _, _, hlast, _⟩ := moveFile_eq_ok hmoved
      exact (resolveLast_eq_ok_iff.mp hlast).1.short
    · rw [hresolve] at hlocation
      cases hlocation
      exact hroom

theorem replaceFile_of_long {directory path : Text} (h : tree.isDirectory directory = true)
    (hlong : longestName < Text.byteLength file + 12) (content : Bytes) :
    tree.replaceFile directory file path content =
      (.error (.staging (Path.join (tree.absolute directory) (stagingName file 0)) .nameTooLong),
        tree) := by
  rw [replaceFile, (isDirectory_iff_resolve.mp h).1]
  simp only [byteLength_stagingName, decide_eq_true hlong, Bool.true_or, if_true]

end ContractProxy.FileTree

namespace ContractProxy.SourceFile

open FileTree

/-- What becomes of a file that is to be written in a folder: it is there with its text, or the
tree is as before. -/
inductive Placing (tree : FileTree) (folder file contents : Text) :
    Except SourceFileFault Unit → FileTree → Prop
  | placed {after : FileTree} (hfits : tree.Fits folder file)
    (hchange : Change tree folder [(tree.place folder ++ [file], Text.utf8 contents)] after)
    (hread : after.read (Path.join folder file) = .ok (Text.utf8 contents)) :
    Placing tree folder file contents (.ok ()) after
  | overlong (hlong : longestName < Text.byteLength file + 12) :
    Placing tree folder file contents
      (.error (.replacing (Path.join folder file)
        (.staging (Path.join (tree.absolute (directoryOf (Path.join folder file)))
          (stagingName file 0)) .nameTooLong))) tree
  | refused {fault : ReplaceFault} (hshort : Text.byteLength file + 12 ≤ longestName)
    (hfits : ¬ tree.Fits folder file) :
    Placing tree folder file contents (.error (.replacing (Path.join folder file) fault)) tree

theorem placing_write {tree : FileTree} {folder file : Text} (h : tree.IsFolder folder)
    (hfile : IsPlain file) (hnul : '\x00' ∉ file)
    (hfree : tree.entry? (tree.place folder ++ [file]) ≠ some .directory) (contents : Text) :
    ∃ result after,
      (write (Path.join folder file) contents : StateM FileTree _) tree = (result, after) ∧
        Placing tree folder file contents result after := by
  obtain ⟨hdirectory, _⟩ := h.directoryOf hfile
  have hname := Path.fileName?_join hfile.separated hfile.isName folder
  rw [write_apply, hname]
  simp only [makeDirectories_of_isDirectory hdirectory]
  refine ⟨_, _, rfl, ?_⟩
  rcases Nat.lt_or_ge longestName (Text.byteLength file + 12) with hlong | hshort
  · rw [replaceFile_of_long hdirectory hlong]
    exact .overlong hlong
  · have hfits := replaceFile_join_iff h hfile hnul hfree (Text.utf8 contents)
    rcases tree.replaceFile_cases (directoryOf (Path.join folder file)) file
      (Path.join folder file) (Text.utf8 contents) with
      ⟨fault, hreplaced, _⟩ | ⟨_, _, after, hreplaced, _⟩
    · rw [hreplaced] at hfits ⊢
      exact .refused hshort fun hfit => nomatch hfits.mpr hfit
    · obtain ⟨hchange, hread⟩ := change_replaceFile folder hreplaced
      rw [place_join hfile] at hchange
      rw [hreplaced] at hfits ⊢
      exact .placed (hfits.mp rfl) hchange hread

end ContractProxy.SourceFile
