import ContractProxy.Config.Loading
import ContractProxy.File.Tree
import ContractProxy.Proofs.Config.StoredPath

/-!
Which file a configuration comes from. A place that is named by a text is never given up: its file
is read, or there is an error. Main statement: what loading comes to, for every argument and every
setting of the environment. A setting that is no text names nothing.
-/

set_option autoImplicit false

namespace ContractProxy.Config

/-- The place that is named: by the argument, or else by the environment. -/
inductive Names : Option Text → Option Bytes → Text → Prop
  | argument (place : Text) (setting : Option Bytes) : Names (some place) setting place
  | environment (place : Text) : Names none (some (Text.utf8 place)) place

inductive ReadFrom (tree : FileTree) (place : Text) : Except Fault Config → Prop
  | outside {fault : PathFault} (hlimits : ¬ WithinLimits place) :
    ReadFrom tree place (.error (.location fault))
  | unreadable {fault : FileFault} (hlimits : WithinLimits place)
    (hread : tree.read place = .error fault) :
    ReadFrom tree place (.error (.unreadable place fault))
  | contents {bytes : Bytes} (hlimits : WithinLimits place)
    (hread : tree.read place = .ok bytes) : ReadFrom tree place (ofBytes bytes)

theorem locate_of_names {path : Option Text} {setting : Option Bytes} {place : Text}
    (h : Names path setting place) : locate path setting = ⟨place, true⟩ := by
  cases h with
  | argument => rfl
  | environment => simp only [locate, environmentPath?, Option.bind_some, Text.ofUtf8?_utf8]

theorem locate_unnamed {setting : Option Bytes}
    (h : ∀ bytes ∈ setting, Text.ofUtf8? bytes = none) :
    locate none setting = ⟨defaultFileName, false⟩ := by
  have hnone : environmentPath? setting = none := Option.bind_eq_none_iff.mpr h
  simp only [locate, hnone]

def loadedFrom (tree : FileTree) (location : Location) : Except Fault Config :=
  match checkLimits location.path with
  | .error fault => .error (.location fault)
  | .ok () =>
    match tree.read location.path with
    | .ok bytes => ofBytes bytes
    | .error fault =>
      if fault == .notFound && !location.isNamed then .ok default
      else .error (.unreadable location.path fault)

theorem load_apply (path : Option Text) (setting : Option Bytes) (tree : FileTree) :
    (load path setting : StateM FileTree (Except Fault Config)) tree =
      (loadedFrom tree (locate path setting), tree) := by
  unfold load
  generalize locate path setting = location
  unfold loadedFrom
  cases checkLimits location.path with
  | error fault => rfl
  | ok done =>
    change (match tree.read location.path with
      | .ok bytes => pure (ofBytes bytes)
      | .error fault =>
        if fault == .notFound && !location.isNamed then pure (.ok default)
        else pure (.error (.unreadable location.path fault)) :
      StateM FileTree (Except Fault Config)) tree = _
    cases tree.read location.path with
    | ok bytes => rfl
    | error fault =>
      simp only
      split_ifs <;> rfl

/-- Only a missing file at a place that nobody named is not an error. -/
theorem readFrom_loadedFrom (tree : FileTree) (location : Location)
    (h : location.isNamed = true ∨ tree.read location.path ≠ .error .notFound) :
    ReadFrom tree location.path (loadedFrom tree location) := by
  unfold loadedFrom
  cases hcheck : checkLimits location.path with
  | error fault =>
    refine .outside fun hlimits => ?_
    rw [checkLimits_eq_ok_iff.mpr hlimits] at hcheck
    cases hcheck
  | ok done =>
    have hlimits := checkLimits_eq_ok_iff.mp hcheck
    cases hread : tree.read location.path with
    | ok bytes => exact .contents hlimits hread
    | error fault =>
      have hkept : (fault == .notFound && !location.isNamed) = false := by
        rcases h with hnamed | hfound
        · rw [hnamed, Bool.not_true, Bool.and_false]
        · have hfault : fault ≠ .notFound := fun heq => hfound (heq ▸ hread)
          rw [beq_false_of_ne hfault, Bool.false_and]
      simp only [hkept]
      exact .unreadable hlimits hread

theorem withinLimits_defaultFileName : WithinLimits defaultFileName :=
  checkLimits_eq_ok_iff.mp (by decide)

theorem loadedFrom_missing {tree : FileTree}
    (h : tree.read defaultFileName = .error .notFound) :
    loadedFrom tree ⟨defaultFileName, false⟩ = .ok default := by
  simp only [loadedFrom, checkLimits_eq_ok_iff.mpr withinLimits_defaultFileName, h]
  rfl

/-- A named configuration is read from its place and nothing stands in for it. If the argument and
the environment name none, the default file is read, and the default configuration stands in for it
where there is no such file. -/
theorem load_reads_named (path : Option Text) (setting : Option Bytes) (tree : FileTree) :
    ∃ outcome,
      (load path setting : StateM FileTree (Except Fault Config)) tree = (outcome, tree) ∧
      (∀ place, Names path setting place → ReadFrom tree place outcome) ∧
      (path = none → (∀ bytes ∈ setting, Text.ofUtf8? bytes = none) →
        if tree.read defaultFileName = .error .notFound then outcome = .ok default
        else ReadFrom tree defaultFileName outcome) := by
  refine ⟨_, load_apply path setting tree, ?_, ?_⟩
  · intro place hnames
    rw [locate_of_names hnames]
    exact readFrom_loadedFrom tree ⟨place, true⟩ (.inl rfl)
  · rintro rfl hsetting
    rw [locate_unnamed hsetting]
    split_ifs with hmissing
    · exact loadedFrom_missing hmissing
    · exact readFrom_loadedFrom tree ⟨defaultFileName, false⟩ (.inr hmissing)

theorem load_reads_named_absent :
    Names none (some (Text.utf8 "absent.toml")) "absent.toml" ∧
      ∃ outcome, (load none (some (Text.utf8 "absent.toml")) :
          StateM FileTree (Except Fault Config)) .empty = (outcome, .empty) ∧
        outcome = .error (.unreadable "absent.toml" .notFound) := by
  have hnames : Names none (some (Text.utf8 "absent.toml")) "absent.toml" := .environment _
  have hlimits : WithinLimits "absent.toml" := checkLimits_eq_ok_iff.mp (by decide)
  have hmissing : FileTree.empty.read "absent.toml" = .error .notFound := by decide
  obtain ⟨outcome, hload, hread, _⟩ :=
    load_reads_named none (some (Text.utf8 "absent.toml")) .empty
  refine ⟨hnames, outcome, hload, ?_⟩
  cases hread _ hnames with
  | outside houtside => exact absurd hlimits houtside
  | unreadable _ hfault =>
    rw [hmissing] at hfault
    cases hfault
    rfl
  | contents _ hfound =>
    rw [hmissing] at hfound
    cases hfound

/-- The environment names a file, by a byte that is no text, and the default stands in for it. -/
theorem load_default_of_set :
    (load none (some [0xff]) : StateM FileTree (Except Fault Config)) .empty =
      (.ok default, .empty) := by
  have hsetting : ∀ bytes ∈ some [(0xff : UInt8)], Text.ofUtf8? bytes = none := by
    decide +kernel
  rw [load_apply, locate_unnamed hsetting, loadedFrom_missing (by decide)]

end ContractProxy.Config
