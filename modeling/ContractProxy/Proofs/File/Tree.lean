import ContractProxy.File.Tree
import ContractProxy.Proofs.File.Path
import ContractProxy.Proofs.FirstFault
import ContractProxy.Text.Keyed

/-!
Where paths lead in a file tree. A path that can be resolved leads to the location that its names
spell out, whatever else is in the tree; so it leads to the same place in every tree that still has
the directories on the way.
-/

set_option autoImplicit false

namespace ContractProxy.FileTree

theorem lookup_erase (tree : FileTree) (location other : Location) :
    (tree.erase location).entries.lookup other =
      if other = location then none else tree.entries.lookup other := by
  unfold erase
  simp only
  induction tree.entries with
  | nil => simp
  | cons first rest ih =>
    obtain ⟨key, entry⟩ := first
    rw [lookup_cons]
    by_cases hkey : key = location
    · rw [List.filter_cons_of_neg (by simpa using hkey), ih, hkey]
      split_ifs <;> rfl
    · rw [List.filter_cons_of_pos (by simpa using hkey), lookup_cons, ih]
      split_ifs with hother hlocation
      · exact absurd (hother.symm.trans hlocation) hkey
      · rfl
      · rfl
      · rfl

theorem entry?_erase (tree : FileTree) {location : Location} (hne : location ≠ [])
    (other : Location) :
    entry? (tree.erase location) other =
      if other = location then none else tree.entry? other := by
  cases other with
  | nil => rw [if_neg (Ne.symm hne)]; rfl
  | cons name rest => exact tree.lookup_erase location (name :: rest)

theorem entry?_insert (tree : FileTree) {location : Location} (hne : location ≠ [])
    (entry : Entry) (other : Location) :
    entry? (tree.insert location entry) other =
      if other = location then some entry else tree.entry? other := by
  cases other with
  | nil => rw [if_neg (Ne.symm hne)]; rfl
  | cons name rest =>
    change List.lookup (name :: rest) ((location, entry) :: (tree.erase location).entries) = _
    rw [lookup_cons, lookup_erase]
    split_ifs
    · rfl
    · rfl

def follow (location : Location) (name : Text) : Location :=
  if name == "." then location
  else if name == ".." then location.dropLast
  else location ++ [name]

theorem follow_of_not_isDots {name : Text} (h : isDots name = false) (location : Location) :
    follow location name = location ++ [name] := by
  simp only [isDots, Bool.or_eq_false_iff] at h
  simp only [follow, h.1, h.2, Bool.false_eq_true, if_false]

theorem step_eq_ok_iff {tree : FileTree} {location next : Location} {name : Text} :
    tree.step location name = .ok next ↔
      tree.entry? location = some .directory ∧ follow location name = next ∧
        (isDots name = false →
          Text.byteLength name ≤ longestName ∧ (tree.entry? next).isSome = true) := by
  unfold step
  cases hentry : tree.entry? location with
  | none => simp
  | some entry =>
    cases entry with
    | file content => simp
    | directory =>
      cases hdots : isDots name with
      | true =>
        have hor := (Bool.or_eq_true _ _).mp hdots
        simp only [follow, Bool.true_eq_false, false_implies, and_true, true_and]
        split_ifs with hdot hparent
        · simp
        · simp
        all_goals exact absurd hor (not_or.mpr ⟨hdot, hparent⟩)
      | false =>
        rw [follow_of_not_isDots hdots]
        simp only [isDots, Bool.or_eq_false_iff] at hdots
        simp only [hdots.1, hdots.2, Bool.false_eq_true, if_false]
        split_ifs with hlong hfound
        · simp [Nat.not_le.mpr hlong]
        · simp only [Except.ok.injEq, true_and, forall_const]
          constructor
          · rintro rfl
            exact ⟨rfl, Nat.not_lt.mp hlong, hfound⟩
          · exact fun h => h.1
        · simp only [true_and, forall_const, false_iff]
          rintro ⟨rfl, _, h⟩
          exact hfound h

theorem follow_of_foldlM {tree : FileTree} {names : List Text} {start location : Location}
    (h : names.foldlM tree.step start = .ok location) : names.foldl follow start = location := by
  induction names generalizing start with
  | nil => exact Except.ok.inj h
  | cons name rest ih =>
    rw [List.foldlM_cons] at h
    obtain ⟨next, hstep, h⟩ := bind_eq_ok_iff.mp h
    rw [List.foldl_cons, (step_eq_ok_iff.mp hstep).2.1]
    exact ih h

theorem foldlM_step_mono {tree after : FileTree}
    (hkept : ∀ l, tree.entry? l = some .directory → after.entry? l = some .directory)
    {names : List Text} {start location : Location}
    (h : names.foldlM tree.step start = .ok location)
    (hfound : (after.entry? location).isSome = true) :
    names.foldlM after.step start = .ok location := by
  induction names generalizing start with
  | nil => exact h
  | cons name rest ih =>
    rw [List.foldlM_cons] at h ⊢
    obtain ⟨next, hstep, h⟩ := bind_eq_ok_iff.mp h
    obtain ⟨hdirectory, hfollow, _⟩ := step_eq_ok_iff.mp hstep
    refine bind_eq_ok_iff.mpr ⟨next, step_eq_ok_iff.mpr ⟨hkept _ hdirectory, hfollow, ?_⟩, ih h⟩
    intro hname
    refine ⟨((step_eq_ok_iff.mp hstep).2.2 hname).1, ?_⟩
    -- A location that is passed has to be a directory.
    cases rest with
    | nil =>
      cases h
      exact hfound
    | cons second others =>
      rw [List.foldlM_cons] at h
      obtain ⟨_, hnext, _⟩ := bind_eq_ok_iff.mp h
      rw [hkept _ (step_eq_ok_iff.mp hnext).1]
      rfl

def start (tree : FileTree) (path : Text) : Location :=
  if Path.isAbsolute path then [] else tree.working

def place (tree : FileTree) (path : Text) : Location :=
  (Path.names path).foldl follow (tree.start path)

section Congruence

variable {tree after : FileTree} (h : after.working = tree.working)

include h

theorem start_congr (path : Text) : after.start path = tree.start path := by
  rw [FileTree.start, h]
  rfl

theorem place_congr (path : Text) : after.place path = tree.place path := by
  rw [place, start_congr h]
  rfl

end Congruence

structure IsPath (path : Text) : Prop where
  nulFree : '\x00' ∉ path
  short : Text.byteLength path ≤ longestPath
  nonempty : path ≠ []

theorem route_eq_ok_iff {tree : FileTree} {path : Text} {route : Route} :
    tree.route path = .ok route ↔ IsPath path ∧
      ⟨tree.start path, Path.names path, path.getLast? == some Path.separator⟩ = route := by
  change (if path.contains '\x00' then .error .nulInPath
    else if longestPath < Text.byteLength path then .error .nameTooLong
    else if path.isEmpty then .error .notFound
    else .ok ⟨tree.start path, Path.names path, path.getLast? == some Path.separator⟩ :
      Except FileFault Route) = .ok route ↔ _
  split_ifs with hnul hlong hempty
  · exact ⟨fun h => (nomatch h), fun h => absurd (by simpa using hnul) h.1.nulFree⟩
  · exact ⟨fun h => (nomatch h), fun h => absurd hlong (Nat.not_lt.mpr h.1.short)⟩
  · exact ⟨fun h => (nomatch h), fun h => absurd (by simpa using hempty) h.1.nonempty⟩
  · have hpath : IsPath path :=
      ⟨by simpa using hnul, Nat.not_lt.mp hlong, by simpa using hempty⟩
    rw [Except.ok.injEq]
    exact (and_iff_right hpath).symm

theorem resolve_eq_ok_iff {tree : FileTree} {path : Text} {location : Location} :
    tree.resolve path = .ok location ↔ IsPath path ∧
      (Path.names path).foldlM tree.step (tree.start path) = .ok location ∧
      (path.getLast? = some Path.separator → tree.entry? location = some .directory) := by
  unfold resolve
  simp only [bind_eq_ok_iff, route_eq_ok_iff]
  constructor
  · rintro ⟨_, ⟨hpath, rfl⟩, found, hfound, h⟩
    split_ifs at h with hslashed
    cases h
    refine ⟨hpath, hfound, fun hs => ?_⟩
    simpa [hs] using hslashed
  · rintro ⟨hpath, hfound, hslashed⟩
    refine ⟨_, ⟨hpath, rfl⟩, location, hfound, ?_⟩
    rw [if_neg]
    simpa using hslashed

theorem place_of_resolve {tree : FileTree} {path : Text} {location : Location}
    (h : tree.resolve path = .ok location) : tree.place path = location :=
  follow_of_foldlM (resolve_eq_ok_iff.mp h).2.1

theorem read_eq_ok_iff {tree : FileTree} {path : Text} {content : Bytes} :
    tree.read path = .ok content ↔
      ∃ location, tree.resolve path = .ok location ∧
        tree.entry? location = some (.file content) := by
  unfold FileTree.read
  rw [bind_eq_ok_iff]
  refine exists_congr fun location => and_congr_right fun _ => ?_
  cases hentry : tree.entry? location with
  | none => simp
  | some entry => cases entry <;> simp

theorem entry?_of_read {tree : FileTree} {path : Text} {content : Bytes}
    (h : tree.read path = .ok content) : tree.entry? (tree.place path) = some (.file content) := by
  obtain ⟨location, hresolve, hentry⟩ := read_eq_ok_iff.mp h
  rw [place_of_resolve hresolve, hentry]

theorem resolveLast_eq_ok_iff {tree : FileTree} {path : Text} {directory : Location}
    {name : Option Text} {slashed : Bool} :
    tree.resolveLast path = .ok (directory, name, slashed) ↔ IsPath path ∧
      (Path.names path).dropLast.foldlM tree.step (tree.start path) = .ok directory ∧
      tree.entry? directory = some .directory ∧ (Path.names path).getLast? = name ∧
      (path.getLast? == some Path.separator) = slashed := by
  unfold resolveLast
  simp only [bind_eq_ok_iff, route_eq_ok_iff]
  constructor
  · rintro ⟨_, ⟨hpath, rfl⟩, found, hfound, h⟩
    split_ifs at h with hdirectory
    cases h
    exact ⟨hpath, hfound, by simpa using hdirectory, rfl, rfl⟩
  · rintro ⟨hpath, hfound, hdirectory, rfl, rfl⟩
    refine ⟨_, ⟨hpath, rfl⟩, directory, hfound, ?_⟩
    rw [if_neg (by simpa using hdirectory)]

theorem place_of_resolveLast {tree : FileTree} {path : Text} {directory : Location} {name : Text}
    {slashed : Bool} (h : tree.resolveLast path = .ok (directory, some name, slashed))
    (hname : isDots name = false) : tree.place path = directory ++ [name] := by
  obtain ⟨_, hfound, _, hlast, _⟩ := resolveLast_eq_ok_iff.mp h
  rw [place, ← List.dropLast_append_getLast? name hlast, List.foldl_append,
    follow_of_foldlM hfound, List.foldl_cons, List.foldl_nil, follow_of_not_isDots hname]

/-- A name that stands for a file of its own in every folder. -/
structure IsPlain (file : Text) : Prop where
  separated : Path.separator ∉ file
  nonempty : file ≠ []
  undotted : isDots file = false

theorem start_join {file : Text} (hfile : Path.separator ∉ file) (tree : FileTree)
    (folder : Text) : tree.start (Path.join folder file) = tree.start folder := by
  rw [FileTree.start, Path.isAbsolute_join hfile]
  rfl

theorem place_join {file : Text} (h : IsPlain file) (tree : FileTree) (folder : Text) :
    tree.place (Path.join folder file) = tree.place folder ++ [file] := by
  rw [place, Path.names_join h.separated h.nonempty, start_join h.separated, List.foldl_append,
    List.foldl_cons, List.foldl_nil, follow_of_not_isDots h.undotted]
  rfl

theorem read_of_resolveLast {tree after : FileTree} {path : Text} {directory : Location}
    {name : Text} {content : Bytes}
    (h : tree.resolveLast path = .ok (directory, some name, false)) (hname : isDots name = false)
    (hlong : Text.byteLength name ≤ longestName) (hworking : after.working = tree.working)
    (hkept : ∀ l, tree.entry? l = some .directory → after.entry? l = some .directory)
    (hfound : after.entry? (directory ++ [name]) = some (.file content)) :
    after.read path = .ok content := by
  obtain ⟨hpath, hfollow, hdirectory, hlast, hslashed⟩ := resolveLast_eq_ok_iff.mp h
  refine read_eq_ok_iff.mpr ⟨_, resolve_eq_ok_iff.mpr ⟨hpath, ?_, ?_⟩, hfound⟩
  · rw [start_congr hworking, ← List.dropLast_append_getLast? name hlast, List.foldlM_append]
    refine bind_eq_ok_iff.mpr ⟨directory, ?_, ?_⟩
    · exact foldlM_step_mono hkept hfollow (by rw [hkept directory hdirectory]; rfl)
    · rw [List.foldlM_cons]
      refine bind_eq_ok_iff.mpr ⟨directory ++ [name], step_eq_ok_iff.mpr ⟨?_, ?_, ?_⟩, rfl⟩
      · exact hkept directory hdirectory
      · exact follow_of_not_isDots hname directory
      · exact fun _ => ⟨hlong, by rw [hfound]; rfl⟩
  · intro hs
    rw [hs] at hslashed
    cases hslashed

end ContractProxy.FileTree
