import ContractProxy.Proofs.Config.Acceptance
import ContractProxy.Proofs.Text.Field

/-!
The paths that an accepted configuration stores. The limits are checked on a path without the blanks
around it, but the path is stored with them. They belong to its first and last component, so
nothing else in the stored path can be too long.
-/

set_option autoImplicit false

namespace ContractProxy

theorem Text.exists_around_trim (t : Text) :
    ∃ front back, t = front ++ Text.trim t ++ back ∧ (∀ c ∈ front, Text.isBlank c = true) ∧
      ∀ c ∈ back, Text.isBlank c = true := by
  refine ⟨t.takeWhile Text.isBlank,
    ((t.dropWhile Text.isBlank).reverse.takeWhile Text.isBlank).reverse, ?_, ?_, ?_⟩
  · rw [Text.trim, List.append_assoc, ← List.reverse_append, List.takeWhile_append_dropWhile,
      List.reverse_reverse, List.takeWhile_append_dropWhile]
  · exact List.all_eq_true.mp List.all_takeWhile
  · intro c hc
    rw [List.mem_reverse] at hc
    exact List.all_eq_true.mp List.all_takeWhile c hc

namespace Path

theorem longestSegment_le_iff {path : Text} {limit : Nat} :
    longestSegment path ≤ limit ↔ ∀ segment ∈ segments path, Text.byteLength segment ≤ limit := by
  have hmax : (0 :: (segments path).map Text.byteLength).max? = some (longestSegment path) := by
    rw [List.max?_cons', List.foldl_map]
    rfl
  rw [List.max?_le_iff hmax]
  simp

def innerSegments (path : Text) : List Text :=
  (segments path).dropLast.tail

theorem segments_ne_nil (path : Text) : segments path ≠ [] :=
  List.splitOn_ne_nil separator path

theorem segments_of_not_mem {path : Text} (h : ∀ c ∈ path, (c == separator) = false) :
    segments path = [path] := by
  refine List.splitOn_eq_singleton ?_
  intro hm
  simpa using h separator hm

theorem dropLast_segments_cut (segment path : Text)
    (h : ∀ c ∈ segment, (c == separator) = false) :
    (segments (segment ++ separator :: path)).dropLast = segment :: (segments path).dropLast := by
  have hcut : segments (segment ++ separator :: path) = segment :: segments path := by
    rw [segments, List.splitOn_append_cons_self, ← segments, segments_of_not_mem h]
    rfl
  rw [hcut, List.dropLast_cons_of_ne_nil (segments_ne_nil path)]

theorem dropLast_segments_append {back : Text} (h : ∀ c ∈ back, (c == separator) = false)
    (path : Text) : (segments (path ++ back)).dropLast = (segments path).dropLast := by
  induction path using Text.cutInduction (· == separator) with
  | last path hpath =>
    rw [segments_of_not_mem hpath, segments_of_not_mem (List.forall_mem_append.mpr ⟨hpath, h⟩)]
    rfl
  | cut segment c path hsegment hc ih =>
    obtain rfl : c = separator := by simpa using hc
    rw [List.append_assoc, List.cons_append, dropLast_segments_cut segment _ hsegment,
      dropLast_segments_cut segment _ hsegment, ih]

theorem innerSegments_append {front : Text} (h : ∀ c ∈ front, (c == separator) = false)
    (path : Text) : innerSegments (front ++ path) = innerSegments path := by
  induction path using Text.cutInduction (· == separator) with
  | last path hpath =>
    rw [innerSegments, innerSegments, segments_of_not_mem hpath,
      segments_of_not_mem (List.forall_mem_append.mpr ⟨h, hpath⟩)]
    rfl
  | cut segment c path hsegment hc =>
    obtain rfl : c = separator := by simpa using hc
    rw [innerSegments, innerSegments, ← List.append_assoc,
      dropLast_segments_cut segment _ hsegment,
      dropLast_segments_cut _ _ (List.forall_mem_append.mpr ⟨h, hsegment⟩), List.tail_cons,
      List.tail_cons]

theorem innerSegments_around {front back : Text} (hfront : ∀ c ∈ front, (c == separator) = false)
    (hback : ∀ c ∈ back, (c == separator) = false) (path : Text) :
    innerSegments (front ++ path ++ back) = innerSegments path := by
  rw [List.append_assoc, innerSegments_append hfront, innerSegments, innerSegments,
    dropLast_segments_append hback]

theorem mem_segments_of_inner {path segment : Text} (h : segment ∈ innerSegments path) :
    segment ∈ segments path :=
  (List.dropLast_sublist _).subset (List.mem_of_mem_tail h)

theorem mem_segments_cases {path segment : Text} (h : segment ∈ segments path) :
    segment ∈ (segments path).head? ∨ segment ∈ (segments path).getLast? ∨
      segment ∈ innerSegments path := by
  have hparts := List.dropLast_concat_getLast (segments_ne_nil path)
  rw [← hparts, List.mem_append, List.mem_singleton] at h
  rcases h with h | rfl
  · unfold innerSegments
    cases hfront : (segments path).dropLast with
    | nil => simp [hfront] at h
    | cons first rest =>
      rw [hfront, List.mem_cons] at h
      rcases h with rfl | h
      · rw [← hparts, hfront]
        exact .inl rfl
      · exact .inr (.inr h)
  · exact .inr (.inl (List.getLast?_eq_some_getLast (segments_ne_nil path)))

end Path

namespace Config

structure WithinLimits (path : Text) : Prop where
  total : Text.byteLength path ≤ longestPath
  components : ∀ segment ∈ Path.segments path, Text.byteLength segment ≤ longestComponent

theorem checkLimits_eq_ok_iff {path : Text} : checkLimits path = .ok () ↔ WithinLimits path := by
  unfold checkLimits
  constructor
  · intro h
    split_ifs at h with htotal hlong
    exact ⟨Nat.not_lt.mp htotal, Path.longestSegment_le_iff.mp (Nat.not_lt.mp hlong)⟩
  · intro h
    rw [if_neg (Nat.not_lt.mpr h.total),
      if_neg (Nat.not_lt.mpr (Path.longestSegment_le_iff.mpr h.components))]

theorem checkPath_eq_ok_iff {path : Text} :
    checkPath path = .ok () ↔ Text.isBlankText path = false ∧ WithinLimits (Text.trim path) := by
  rw [checkPath, ← checkLimits_eq_ok_iff]
  split_ifs with hblank <;> simp [hblank]

def paths (config : Config) : List Text :=
  config.sourceAssembly.toList ++ config.targetFolder.toList

theorem checkPathField_eq_ok_iff {field : Text} {path : Option Text} :
    checkPathField field path = .ok () ↔ ∀ stored ∈ path.toList, checkPath stored = .ok () := by
  cases path with
  | none => simp [checkPathField]
  | some stored => simp [checkPathField, mapError_eq_ok_iff]

theorem checkPath_of_validate {config : Config} (h : config.validate = .ok ()) :
    ∀ path ∈ config.paths, checkPath path = .ok () := by
  obtain ⟨_, h⟩ := then_eq_ok_iff.mp h
  obtain ⟨hsource, h⟩ := then_eq_ok_iff.mp h
  obtain ⟨_, h⟩ := then_eq_ok_iff.mp h
  obtain ⟨_, htarget⟩ := then_eq_ok_iff.mp h
  exact List.forall_mem_append.mpr
    ⟨checkPathField_eq_ok_iff.mp hsource, checkPathField_eq_ok_iff.mp htarget⟩

theorem innerSegments_trim (path : Text) :
    Path.innerSegments (Text.trim path) = Path.innerSegments path := by
  have hblank : ∀ {t : Text}, (∀ c ∈ t, Text.isBlank c = true) →
      ∀ c ∈ t, (c == Path.separator) = false := by
    intro t ht c hc
    have hseparator : Text.isBlank Path.separator = false := by decide
    rw [beq_eq_false_iff_ne]
    intro heq
    rw [heq] at hc
    simpa [hseparator] using ht _ hc
  obtain ⟨front, back, hpath, hfront, hback⟩ := Text.exists_around_trim path
  conv_rhs => rw [hpath]
  exact (Path.innerSegments_around (hblank hfront) (hblank hback) (Text.trim path)).symm

/-- A path that is stored is not blank. Without the blanks around it it is within the limits, so
that nothing but its length, its first component and its last component can exceed them. -/
theorem paths_of_ofBytes {bytes : Bytes} {config : Config} (h : ofBytes bytes = .ok config) :
    ∀ path ∈ config.paths, Text.isBlankText path = false ∧ WithinLimits (Text.trim path) ∧
      (∀ segment ∈ Path.innerSegments path, Text.byteLength segment ≤ longestComponent) ∧
      (WithinLimits path ↔ Text.byteLength path ≤ longestPath ∧
        (∀ first ∈ (Path.segments path).head?, Text.byteLength first ≤ longestComponent) ∧
        ∀ last ∈ (Path.segments path).getLast?, Text.byteLength last ≤ longestComponent) := by
  intro path hm
  obtain ⟨_, _, _, _, hvalid⟩ := ofBytes_eq_ok h
  obtain ⟨hblank, hlimits⟩ := checkPath_eq_ok_iff.mp (checkPath_of_validate hvalid path hm)
  have hinner : ∀ segment ∈ Path.innerSegments path,
      Text.byteLength segment ≤ longestComponent := by
    rw [← innerSegments_trim]
    exact fun segment hs => hlimits.components segment (Path.mem_segments_of_inner hs)
  refine ⟨hblank, hlimits, hinner, ?_⟩
  constructor
  · intro hpath
    exact ⟨hpath.total, fun _ hs => hpath.components _ (List.mem_of_head? hs),
      fun _ hs => hpath.components _ (List.mem_of_getLast? hs)⟩
  · intro hends
    obtain ⟨htotal, hfirst, hlast⟩ := hends
    refine ⟨htotal, ?_⟩
    intro segment hs
    rcases Path.mem_segments_cases hs with hs | hs | hs
    · exact hfirst segment hs
    · exact hlast segment hs
    · exact hinner segment hs

def folderSettings (folder : Text) : Text :=
  "[output]\ntarget_folder = \"" ++ folder ++ "\"\n"

def folderConfig (folder : Text) : Config :=
  { default with targetFolder := some folder }

def indentedFolder : Text :=
  "  generated/proxies"

theorem paths_of_ofBytes_indented :
    ofBytes (Text.utf8 (folderSettings indentedFolder)) = .ok (folderConfig indentedFolder) ∧
      Text.isBlankText indentedFolder = false ∧ WithinLimits "generated/proxies" ∧
      WithinLimits indentedFolder := by
  have haccepted : ofBytes (Text.utf8 (folderSettings indentedFolder)) =
      .ok (folderConfig indentedFolder) :=
    ofBytes_utf8 (by decide +kernel) (by decide +kernel) (by decide +kernel)
  have hstored : indentedFolder ∈ (folderConfig indentedFolder).paths := by decide
  obtain ⟨hblank, htrimmed, _, hends⟩ := paths_of_ofBytes haccepted indentedFolder hstored
  exact ⟨haccepted, hblank, htrimmed, hends.mpr ⟨by decide, by decide, by decide⟩⟩

/-- One letter behind as many blanks as a component may have bytes. -/
def paddedFolder : Text :=
  List.replicate longestComponent ' ' ++ "a"

/-- The padded folder is accepted and stored, though its only component is too long. -/
theorem not_withinLimits_padded :
    ofBytes (Text.utf8 (folderSettings paddedFolder)) = .ok (folderConfig paddedFolder) ∧
      paddedFolder ∈ (folderConfig paddedFolder).paths ∧ ¬ WithinLimits paddedFolder := by
  have haccepted : ofBytes (Text.utf8 (folderSettings paddedFolder)) =
      .ok (folderConfig paddedFolder) :=
    ofBytes_utf8 (by decide +kernel) (by decide +kernel) (by decide +kernel)
  have hstored : paddedFolder ∈ (folderConfig paddedFolder).paths := List.mem_singleton_self _
  have hcomponent : paddedFolder ∈ Path.segments paddedFolder := by decide +kernel
  have hlong : ¬ Text.byteLength paddedFolder ≤ longestComponent := by decide +kernel
  exact ⟨haccepted, hstored, fun hlimits => hlong (hlimits.components _ hcomponent)⟩

end Config

end ContractProxy
