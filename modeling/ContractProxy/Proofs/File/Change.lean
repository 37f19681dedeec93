import ContractProxy.Proofs.File.Tree
import Mathlib.Data.List.Nodup

/-!
What file operations change. Making directories adds directories on the way to a path and nothing
else. Replacing a file leaves no staging file behind: it changes that one file, or nothing.
-/

set_option autoImplicit false

namespace ContractProxy.FileTree

/-- A location on the way to where a path leads. -/
def OnPath (tree : FileTree) (path : Text) (location : Location) : Prop :=
  ∃ names, names <+: Path.names path ∧ names.foldl follow (tree.start path) = location

/-- What may have become of a location: it is as before, it is a new directory on the way to a
folder, or it is a file that was written. -/
inductive Fate (tree : FileTree) (folder : Text) (written : List (Location × Bytes))
    (after : FileTree) (location : Location) : Prop
  | kept (hsame : after.entry? location = tree.entry? location)
  | made (hbefore : tree.entry? location = none)
    (hafter : after.entry? location = some .directory) (hpath : OnPath tree folder location)
  | put (content : Bytes) (hwritten : (location, content) ∈ written)
    (hbefore : tree.entry? location ≠ some .directory)
    (hafter : after.entry? location = some (.file content))

/-- The trees that differ only in directories on the way to a folder and in the files written. -/
structure Change (tree : FileTree) (folder : Text) (written : List (Location × Bytes))
    (after : FileTree) : Prop where
  working : after.working = tree.working
  fate : ∀ location, Fate tree folder written after location

theorem onPath_congr {tree after : FileTree} (h : after.working = tree.working) {path : Text}
    {location : Location} : OnPath after path location ↔ OnPath tree path location := by
  rw [OnPath, start_congr h]
  rfl

theorem onPath_of_above {tree : FileTree} {path other : Text} (h : Path.Above path other)
    {location : Location} (hpath : OnPath tree other location) : OnPath tree path location := by
  obtain ⟨names, hnames, rfl⟩ := hpath
  exact ⟨names, hnames.trans h.names, by rw [FileTree.start, FileTree.start, h.start]⟩

namespace Change

variable {tree middle after : FileTree} {folder : Text} {written more : List (Location × Bytes)}

theorem refl (tree : FileTree) (folder : Text) : Change tree folder [] tree :=
  ⟨rfl, fun _ => .kept rfl⟩

theorem trans (h : Change tree folder written middle) (hmore : Change middle folder more after) :
    Change tree folder (written ++ more) after := by
  -- The later change decides on a location; only what it keeps is as the earlier one left it.
  refine ⟨hmore.working.trans h.working, fun location => ?_⟩
  cases hmore.fate location with
  | kept hsame =>
    cases h.fate location with
    | kept hfirst => exact .kept (hsame.trans hfirst)
    | made hbefore hafter hpath => exact .made hbefore (hsame.trans hafter) hpath
    | put content hwritten hbefore hafter =>
      exact .put content (List.mem_append_left _ hwritten) hbefore (hsame.trans hafter)
  | made hnone hdirectory hpath =>
    cases h.fate location with
    | kept hfirst =>
      exact .made (hfirst ▸ hnone) hdirectory ((onPath_congr h.working).mp hpath)
    | made _ hafter _ => simp [hnone] at hafter
    | put content _ _ hafter => simp [hnone] at hafter
  | put content hwritten hother hafter =>
    refine .put content (List.mem_append_right _ hwritten) ?_ hafter
    cases h.fate location with
    | kept hfirst => exact hfirst ▸ hother
    | made _ hmade _ => exact absurd hmade hother
    | put _ _ hbefore _ => exact hbefore

theorem mono {other : Text} (hpath : ∀ l, OnPath tree other l → OnPath tree folder l)
    (h : Change tree other written after) : Change tree folder written after := by
  refine ⟨h.working, fun location => ?_⟩
  cases h.fate location with
  | kept hsame => exact .kept hsame
  | made hbefore hafter hon => exact .made hbefore hafter (hpath location hon)
  | put content hwritten hbefore hafter => exact .put content hwritten hbefore hafter

theorem directory (h : Change tree folder written after) {location : Location}
    (hdirectory : tree.entry? location = some .directory) :
    after.entry? location = some .directory := by
  cases h.fate location with
  | kept hsame => rw [hsame, hdirectory]
  | made _ hafter _ => exact hafter
  | put _ _ hbefore _ => exact absurd hdirectory hbefore

theorem keeps (h : Change tree folder written after) {location : Location} {entry : Entry}
    (hentry : tree.entry? location = some entry)
    (hother : ∀ content, (location, content) ∉ written) :
    after.entry? location = some entry := by
  cases h.fate location with
  | kept hsame => rw [hsame, hentry]
  | made hbefore _ _ => simp [hentry] at hbefore
  | put content hwritten _ _ => exact absurd hwritten (hother content)

theorem read (h : Change tree folder written after) {path : Text} {content : Bytes}
    (hread : tree.read path = .ok content)
    (hother : ∀ content, (tree.place path, content) ∉ written) :
    after.read path = .ok content := by
  obtain ⟨location, hresolve, hentry⟩ := read_eq_ok_iff.mp hread
  rw [place_of_resolve hresolve] at hother
  have hafter := h.keeps hentry hother
  obtain ⟨hpath, hfound, hslashed⟩ := resolve_eq_ok_iff.mp hresolve
  refine read_eq_ok_iff.mpr ⟨location, resolve_eq_ok_iff.mpr ⟨hpath, ?_, ?_⟩, hafter⟩
  · rw [start_congr h.working]
    exact foldlM_step_mono (fun l => h.directory) hfound (by rw [hafter]; rfl)
  · intro hs
    exact h.directory (hslashed hs)

end Change

theorem makeDirectory_eq_ok {tree after : FileTree} {path : Text}
    (h : tree.makeDirectory path = .ok after) :
    ∃ directory name slashed, tree.resolveLast path = .ok (directory, some name, slashed) ∧
      isDots name = false ∧ tree.entry? (directory ++ [name]) = none ∧
      after = tree.insert (directory ++ [name]) .directory := by
  obtain ⟨⟨directory, name, slashed⟩, hlast, h⟩ := bind_eq_ok_iff.mp h
  cases name with
  | none => cases h
  | some name =>
    simp only at h
    split_ifs at h with hdots hlong hfound
    cases h
    exact ⟨directory, name, slashed, hlast, by simpa using hdots, by simpa using hfound, rfl⟩

theorem change_makeDirectory {tree after : FileTree} {path : Text}
    (h : tree.makeDirectory path = .ok after) : Change tree path [] after := by
  obtain ⟨directory, name, slashed, hlast, hdots, hnone, rfl⟩ := makeDirectory_eq_ok h
  have hplace := place_of_resolveLast hlast hdots
  refine ⟨rfl, fun location => ?_⟩
  have hne : directory ++ [name] ≠ [] := by simp
  have hentry := tree.entry?_insert hne .directory location
  split_ifs at hentry with hlocation
  · subst hlocation
    exact .made hnone hentry ⟨Path.names path, List.prefix_refl _, hplace⟩
  · exact .kept hentry

theorem change_makeEach {path : Text} {paths : List Text}
    (hpaths : ∀ other ∈ paths, Path.Above path other) (tree : FileTree) :
    Change tree path [] (tree.makeEach paths).2 := by
  induction paths generalizing tree with
  | nil => exact Change.refl tree path
  | cons other rest ih =>
    obtain ⟨hother, hrest⟩ := List.forall_mem_cons.mp hpaths
    rw [makeEach]
    cases hmade : tree.makeDirectory other with
    | ok after =>
      have hchange := (change_makeDirectory hmade).mono fun l => onPath_of_above hother
      exact hchange.trans (ih hrest after)
    | error fault =>
      simp only
      split_ifs
      · exact ih hrest tree
      · exact Change.refl tree path

theorem mem_missing {tree : FileTree} {paths : List Text} {path : Text}
    (h : path ∈ tree.missing paths) : path ∈ paths ∧ path ≠ [] := by
  induction paths with
  | nil => cases h
  | cons first above ih =>
    rw [missing] at h
    split_ifs at h with hempty
    · cases h
    · have hfirst : first ≠ [] := by simpa using hempty
      split at h
      · rcases List.mem_cons.mp h with rfl | h
        · exact ⟨List.mem_cons_self, hfirst⟩
        · exact ⟨List.mem_cons_of_mem _ (ih h).1, (ih h).2⟩
      · rw [List.mem_singleton] at h
        subst h
        exact ⟨List.mem_cons_self, hfirst⟩

theorem change_makeDirectories (tree : FileTree) (path : Text) :
    Change tree path [] (tree.makeDirectories path).2 := by
  refine change_makeEach ?_ tree
  intro other hm
  obtain ⟨hancestor, hne⟩ := mem_missing (List.mem_reverse.mp hm)
  exact Path.above_of_mem_ancestors hancestor hne

theorem makeDirectory_dot (tree after : FileTree) : tree.makeDirectory "." ≠ .ok after := by
  intro h
  obtain ⟨directory, name, slashed, hlast, hdots, _⟩ := makeDirectory_eq_ok h
  obtain ⟨_, _, _, hname, _⟩ := resolveLast_eq_ok_iff.mp hlast
  cases hname
  cases hdots

theorem makeEach_dots {paths : List Text} (hpaths : ∀ path ∈ paths, path = ".")
    (tree : FileTree) : (tree.makeEach paths).2 = tree := by
  induction paths with
  | nil => rfl
  | cons path rest ih =>
    obtain ⟨hpath, hrest⟩ := List.forall_mem_cons.mp hpaths
    rw [makeEach, hpath]
    cases hmade : tree.makeDirectory "." with
    | ok after => exact absurd hmade (makeDirectory_dot tree after)
    | error fault =>
      simp only
      split_ifs
      · exact ih hrest
      · rfl

theorem makeDirectories_dot (tree : FileTree) : (tree.makeDirectories ".").2 = tree := by
  refine makeEach_dots ?_ tree
  intro path hm
  obtain ⟨hancestor, hne⟩ := mem_missing (List.mem_reverse.mp hm)
  have hancestors : Path.ancestors 1 "." = [".", ""] := by decide
  change path ∈ Path.ancestors 1 "." at hancestor
  rw [hancestors] at hancestor
  simpa [hne] using hancestor

theorem change_directoryOf (tree : FileTree) {file : Text} (hfile : Path.separator ∉ file)
    (folder : Text) :
    Change tree folder []
      (tree.makeDirectories (SourceFile.directoryOf (Path.join folder file))).2 := by
  rcases Path.directoryOf_join hfile folder with hdot | habove
  · rw [hdot, makeDirectories_dot]
    exact Change.refl tree folder
  · exact (change_makeDirectories tree _).mono fun l => onPath_of_above habove

section Staging

theorem stagingName_inj {file tag other : Text}
    (h : FileStore.stagingName file tag = FileStore.stagingName file other) : tag = other := by
  simpa [FileStore.stagingName] using h

theorem padded_inj {m n : Nat}
    (h : List.replicate (6 - (Text.decimal m).length) '0' ++ Text.decimal m =
      List.replicate (6 - (Text.decimal n).length) '0' ++ Text.decimal n) : m = n := by
  have hvalue : ∀ k number : Nat,
      Nat.ofDigitChars 10 (List.replicate k '0' ++ Text.decimal number) 0 = number := by
    intro k number
    rw [Nat.ofDigitChars_append, Nat.ofDigitChars_replicate_zero, Nat.mul_zero]
    exact Nat.ofDigitChars_toDigits (by omega) (by omega)
  rw [← hvalue _ m, h, hvalue]

theorem mem_keys_of_entry? {tree : FileTree} {location : Location} (hne : location ≠ [])
    (h : (tree.entry? location).isSome = true) : location ∈ tree.entries.map Prod.fst := by
  unfold entry? at h
  rw [if_neg (by simpa using hne), List.lookup_isSome_iff] at h
  obtain ⟨entry, hm, hkey⟩ := h
  rw [beq_iff_eq] at hkey
  exact List.mem_map.mpr ⟨entry, hm, hkey.symm⟩

theorem stagingName_injective (file : Text) : Function.Injective (stagingName file) :=
  fun _ _ h => padded_inj (stagingName_inj h)

theorem entry?_of_freshStagingName {tree : FileTree} {directory : Location} {file name : Text}
    (h : tree.freshStagingName? directory file = some name) :
    tree.entry? (directory ++ [name]) = none := by
  simpa using List.find?_some h

/-- A staging name is found if there is one: more are tried than the tree has entries, or all. -/
theorem exists_freshStagingName_iff {tree : FileTree} {directory : Location} {file : Text} :
    (∃ name, tree.freshStagingName? directory file = some name) ↔
      ∃ number < stagingNames, tree.entry? (directory ++ [stagingName file number]) = none := by
  rw [← Option.isSome_iff_exists]
  constructor
  · intro h
    obtain ⟨name, hm, hfree⟩ := List.find?_isSome.mp h
    obtain ⟨number, hnumber, rfl⟩ := List.mem_map.mp hm
    rw [List.mem_range] at hnumber
    exact ⟨number, Nat.lt_of_lt_of_le hnumber (Nat.min_le_right _ _), by simpa using hfree⟩
  · rintro ⟨number, hnumber, hfree⟩
    refine Option.isSome_iff_ne_none.mpr fun hnone => ?_
    have htaken : ∀ other < min (tree.entries.length + 1) stagingNames,
        (tree.entry? (directory ++ [stagingName file other])).isSome = true := by
      intro other hother
      have hm := List.mem_map_of_mem (f := stagingName file) (List.mem_range.mpr hother)
      simpa [Option.isSome_iff_ne_none] using List.find?_eq_none.mp hnone _ hm
    rcases Nat.lt_or_ge number (tree.entries.length + 1) with hlt | hge
    · have hsome := htaken number (Nat.lt_min.mpr ⟨hlt, hnumber⟩)
      rw [hfree] at hsome
      cases hsome
    · -- The names that are taken are all different, so there are too few entries for them.
      let names := (List.range (tree.entries.length + 1)).map (stagingName file)
      have hall : names.map (fun name => directory ++ [name]) ⊆ tree.entries.map Prod.fst := by
        intro location hm
        obtain ⟨name, hname, rfl⟩ := List.mem_map.mp hm
        obtain ⟨other, hother, rfl⟩ := List.mem_map.mp hname
        rw [List.mem_range] at hother
        exact mem_keys_of_entry? (by simp) (htaken other (by omega))
      have hdistinct : (names.map fun name => directory ++ [name]).Nodup := by
        refine List.Nodup.map ?_ (List.nodup_range.map (stagingName_injective file))
        intro name other h
        simpa using h
      have hlength := hdistinct.length_le_of_subset hall
      simp only [names, List.length_map, List.length_range] at hlength
      omega

theorem erase_insert {tree : FileTree} {location : Location} (hne : location ≠ [])
    (h : tree.entry? location = none) (entry : Entry) :
    (tree.insert location entry).erase location = tree := by
  have hkeys : ∀ other ∈ tree.entries, (other.1 != location) = true := by
    intro other hm
    unfold entry? at h
    rw [if_neg (by simpa using hne), List.lookup_eq_none_iff] at h
    have hkey : location ≠ other.1 := by simpa using h other hm
    exact bne_iff_ne.mpr hkey.symm
  have hentries : tree.entries.filter (·.1 != location) = tree.entries :=
    List.filter_eq_self.mpr hkeys
  change ({ tree with entries :=
    ((location, entry) :: tree.entries.filter (·.1 != location)).filter (·.1 != location) } :
      FileTree) = tree
  rw [List.filter_cons_of_neg (by simp), hentries, hentries]

theorem moveFile_eq_ok {tree after : FileTree} {source : Location} {path : Text}
    (h : tree.moveFile source path = .ok after) :
    ∃ directory name content, tree.resolveLast path = .ok (directory, some name, false) ∧
      tree.entry? source = some (.file content) ∧ isDots name = false ∧
      Text.byteLength name ≤ longestName ∧
      tree.entry? (directory ++ [name]) ≠ some .directory ∧
      after = (tree.erase source).insert (directory ++ [name]) (.file content) := by
  obtain ⟨⟨directory, name, slashed⟩, hlast, h⟩ := bind_eq_ok_iff.mp h
  simp only at h
  split at h
  · rename_i name content hsource
    split_ifs at h with hdots hlong hslashed hdirectory
    cases h
    refine ⟨directory, name, content, ?_, hsource, by simpa using hdots, Nat.not_lt.mp hlong,
      by simpa using hdirectory, rfl⟩
    rw [hlast]
    simpa using hslashed
  · cases h
  · cases h

theorem change_moveFile {tree after : FileTree} {source : Location} {path folder : Text}
    {content : Bytes} (hne : source ≠ []) (habsent : tree.entry? source = none)
    (h : (tree.insert source (.file content)).moveFile source path = .ok after) :
    Change tree folder [(tree.place path, content)] after ∧ after.read path = .ok content := by
  have hstaged := tree.entry?_insert hne (.file content)
  obtain ⟨directory, name, found, hlast, hsource, hdots, hlong, hother, rfl⟩ := moveFile_eq_ok h
  have hworking : (tree.insert source (.file content)).working = tree.working := rfl
  have hplace : tree.place path = directory ++ [name] := by
    rw [← place_congr hworking, place_of_resolveLast hlast hdots]
  have hcontent : content = found := by
    rw [hstaged, if_pos rfl] at hsource
    simpa using hsource
  subst hcontent
  have htarget : directory ++ [name] ≠ [] := by simp
  have hafter : ∀ l, entry? (((tree.insert source (.file content)).erase source).insert
      (directory ++ [name]) (.file content)) l =
        if l = directory ++ [name] then some (.file content) else tree.entry? l := by
    intro l
    rw [entry?_insert _ htarget, entry?_erase _ hne, hstaged]
    split_ifs with _ hl
    · rfl
    · rw [hl, habsent]
    · rfl
  have hfile : tree.entry? (directory ++ [name]) ≠ some .directory := by
    intro hdirectory
    rw [hstaged, hdirectory] at hother
    split_ifs at hother with hsame
    · simp [hsame, habsent] at hdirectory
    · exact hother rfl
  refine ⟨⟨rfl, fun l => ?_⟩, read_of_resolveLast hlast hdots hlong rfl ?_ ?_⟩
  · by_cases hl : l = directory ++ [name]
    · subst hl
      exact .put content (by simp [hplace]) hfile (by rw [hafter, if_pos rfl])
    · exact .kept (by rw [hafter, if_neg hl])
  · -- Neither the staging file nor the file at the target is a directory.
    intro l hl
    rw [hstaged] at hl
    rw [hafter]
    split_ifs at hl with hstage
    · cases hl
    · have hltarget : l ≠ directory ++ [name] := fun heq => hfile (heq ▸ hl)
      rw [if_neg hltarget, hl]
  · rw [hafter, if_pos rfl]

theorem byteLength_stagingName (file : Text) :
    Text.byteLength (stagingName file 0) = Text.byteLength file + 12 := by
  have htag : stagingName file 0 = "." ++ file ++ ".000000.tmp" := by
    simp [stagingName, FileStore.stagingName, Text.decimal]
  have hends : Text.byteLength "." = 1 ∧ Text.byteLength ".000000.tmp" = 11 := by decide +kernel
  rw [htag, Text.byteLength_append, Text.byteLength_append, hends.1, hends.2]
  omega

structure HasRoom (tree : FileTree) (directory file : Text) (location : Location) : Prop where
  name : Text.byteLength file + 12 ≤ longestName
  path : Text.byteLength (Path.join (tree.absolute directory) (stagingName file 0)) ≤ longestPath
  free : ∃ number < stagingNames, tree.entry? (location ++ [stagingName file number]) = none

theorem replaceFile_cases (tree : FileTree) (directory file path : Text) (content : Bytes) :
    (∃ fault, tree.replaceFile directory file path content = (.error fault, tree) ∧
      ∀ location, tree.resolve directory = .ok location → tree.HasRoom directory file location →
        ∃ name, tree.entry? (location ++ [name]) = none ∧ ∃ fault,
          (tree.insert (location ++ [name]) (.file content)).moveFile (location ++ [name]) path =
            .error fault) ∨
    ∃ location name after, tree.replaceFile directory file path content = (.ok (), after) ∧
      tree.resolve directory = .ok location ∧ tree.HasRoom directory file location ∧
      tree.entry? (location ++ [name]) = none ∧
      (tree.insert (location ++ [name]) (.file content)).moveFile (location ++ [name]) path =
        .ok after := by
  unfold replaceFile
  cases hresolve : tree.resolve directory with
  | error fault => exact .inl ⟨_, rfl, fun _ h => by cases h⟩
  | ok location =>
    simp only [Bool.or_eq_true, decide_eq_true_eq, byteLength_stagingName]
    split_ifs with hlong
    · refine .inl ⟨_, rfl, fun _ _ hroom => ?_⟩
      exact absurd hlong (not_or.mpr ⟨Nat.not_lt.mpr hroom.name, Nat.not_lt.mpr hroom.path⟩)
    · rw [not_or, Nat.not_lt, Nat.not_lt] at hlong
      cases hfresh : tree.freshStagingName? location file with
      | none =>
        refine .inl ⟨_, rfl, ?_⟩
        rintro _ ⟨⟩ hroom
        obtain ⟨name, hname⟩ := exists_freshStagingName_iff.mpr hroom.free
        rw [hfresh] at hname
        cases hname
      | some name =>
        have hfree := entry?_of_freshStagingName hfresh
        have hroom : tree.HasRoom directory file location :=
          ⟨hlong.1, hlong.2, exists_freshStagingName_iff.mp ⟨name, hfresh⟩⟩
        cases hmoved :
          (tree.insert (location ++ [name]) (.file content)).moveFile (location ++ [name]) path with
        | ok after =>
          exact .inr ⟨location, name, after, by simp only [hmoved], rfl, hroom, hfree, hmoved⟩
        | error fault =>
          refine .inl ⟨.renaming fault, ?_, ?_⟩
          · simp only [hmoved, erase_insert (by simp) hfree]
          · rintro _ ⟨⟩ _
            exact ⟨name, hfree, fault, hmoved⟩

theorem change_replaceFile {tree after : FileTree} {directory file path : Text} {content : Bytes}
    (folder : Text) (h : tree.replaceFile directory file path content = (.ok (), after)) :
    Change tree folder [(tree.place path, content)] after ∧ after.read path = .ok content := by
  rcases tree.replaceFile_cases directory file path content with
    ⟨fault, hfailed, _⟩ | ⟨location, name, moved, hreplaced, _, _, hfree, hmoved⟩
  · rw [h] at hfailed
    cases hfailed
  · rw [h] at hreplaced
    cases hreplaced
    exact change_moveFile (by simp) hfree hmoved

theorem change_replaceFile_of_error {tree after : FileTree} {directory file path : Text}
    {content : Bytes} {fault : ReplaceFault} (folder : Text)
    (h : tree.replaceFile directory file path content = (.error fault, after)) :
    Change tree folder [] after := by
  rcases tree.replaceFile_cases directory file path content with
    ⟨found, hfailed, _⟩ | ⟨location, name, moved, hreplaced, _⟩
  · rw [h] at hfailed
    cases hfailed
    exact Change.refl tree folder
  · rw [h] at hreplaced
    cases hreplaced

end Staging

end ContractProxy.FileTree
