import ContractProxy.File.SourceFile
import Mathlib.Data.List.Basic
import Mathlib.Data.List.DropRight

/-!
What the operations on paths do to the names in them. A path below a folder has the names of the
folder and one more; the paths above a path have the names it begins with. The directory of a file
in a folder is that folder, but for single dots at its end.
-/

set_option autoImplicit false

namespace ContractProxy.Path

def names (path : Text) : List Text :=
  (segments path).filter (!·.isEmpty)

theorem segments_cons_separator (path : Text) :
    segments (separator :: path) = [] :: segments path :=
  List.splitOn_append_cons_self [] path

theorem segments_cons {c : Char} (hc : c ≠ separator) (path : Text) :
    ∃ first rest, segments path = first :: rest ∧ segments (c :: path) = (c :: first) :: rest := by
  obtain ⟨first, rest, h⟩ := List.exists_cons_of_ne_nil (List.splitOn_ne_nil separator path)
  refine ⟨first, rest, h, ?_⟩
  rw [List.splitOn_eq_splitOnP] at h
  rw [segments, List.splitOn_eq_splitOnP, List.splitOnP_cons_eq_if_modifyHead, if_neg (by simpa), h,
    List.modifyHead_cons]

theorem separator_not_mem {path segment : Text} (h : segment ∈ segments path) :
    separator ∉ segment := by
  induction path generalizing segment with
  | nil =>
    rw [segments, List.splitOn_nil, List.mem_singleton] at h
    simp [h]
  | cons c rest ih =>
    by_cases hc : c = separator
    · subst hc
      rw [segments_cons_separator, List.mem_cons] at h
      rcases h with rfl | h
      · simp
      · exact ih h
    · obtain ⟨first, others, hrest, hall⟩ := segments_cons hc rest
      rw [hrest] at ih
      rw [hall, List.mem_cons] at h
      rcases h with rfl | h
      · have hfirst := ih List.mem_cons_self
        simpa [Ne.symm hc] using hfirst
      · exact ih (List.mem_cons_of_mem first h)

theorem separated_of_front {path first : Text} {kept rest : List Text}
    (hsegments : segments path = first :: rest) (hkept : kept <+: rest) :
    ∀ segment ∈ first :: kept, separator ∉ segment := by
  intro segment hm
  have hsegment : segment ∈ segments path := by
    rw [hsegments]
    exact ((List.prefix_cons_inj first).mpr hkept).subset hm
  exact separator_not_mem hsegment

theorem isAbsolute_cons (c : Char) (rest : Text) :
    isAbsolute (c :: rest) = (c == separator) := by
  unfold isAbsolute
  split
  · rename_i heq
    rw [(List.cons.inj heq).1, beq_self_eq_true]
  · rename_i hother
    have hc : c ≠ separator := fun hc => hother rest (by rw [hc])
    simp [hc]

theorem isAbsolute_eq_false {path : Text} (h : separator ∉ path) : isAbsolute path = false := by
  cases path with
  | nil => rfl
  | cons c rest =>
    rw [isAbsolute_cons, beq_eq_false_iff_ne]
    rintro rfl
    exact h List.mem_cons_self

theorem isAbsolute_iff {path : Text} :
    isAbsolute path = true ↔ ∃ rest, rest ≠ [] ∧ segments path = [] :: rest := by
  cases path with
  | nil => simp [isAbsolute, segments]
  | cons c rest =>
    by_cases hc : c = separator
    · subst hc
      rw [segments_cons_separator]
      exact ⟨fun _ => ⟨segments rest, List.splitOn_ne_nil _ _, rfl⟩, fun _ => rfl⟩
    · obtain ⟨first, others, _, hall⟩ := segments_cons hc rest
      simp [hall, isAbsolute_cons, hc]

theorem join_nil (path : Text) : join [] path = path := by
  simp [join]

theorem exists_base {file : Text} (hfile : separator ∉ file) {folder : Text} (hne : folder ≠ []) :
    ∃ base, (folder = base ∨ folder = base ++ [separator]) ∧
      join folder file = base ++ separator :: file := by
  unfold join
  rw [isAbsolute_eq_false hfile, Bool.false_or, if_neg (by simpa using hne)]
  split_ifs with hslashed
  · have hfolder : folder = folder.dropLast ++ [separator] :=
      (List.dropLast_append_getLast? _ (by simpa using hslashed)).symm
    refine ⟨folder.dropLast, .inr hfolder, ?_⟩
    conv_lhs => rw [hfolder]
    rw [List.append_assoc, List.singleton_append]
  · exact ⟨folder, .inl rfl, rfl⟩

theorem exists_front {file : Text} (hfile : separator ∉ file) (folder : Text) :
    ∃ front, join folder file = front ++ file ∧ ∀ c ∈ front, c = separator ∨ c ∈ folder := by
  by_cases hempty : folder = []
  · subst hempty
    exact ⟨[], join_nil file, by simp⟩
  · obtain ⟨base, hbase, hjoin⟩ := exists_base hfile hempty
    refine ⟨base ++ [separator], by rw [hjoin, List.append_cons], ?_⟩
    intro c hm
    rcases List.mem_append.mp hm with hm | hm
    · refine .inr ?_
      rcases hbase with rfl | rfl
      · exact hm
      · exact List.mem_append_left _ hm
    · exact .inl (List.mem_singleton.mp hm)

theorem segments_base {file : Text} (hfile : separator ∉ file) (base : Text) :
    segments (base ++ separator :: file) = segments base ++ [file] := by
  rw [segments, List.splitOn_append_cons_self, List.splitOn_eq_singleton hfile]
  rfl

theorem names_base {folder base : Text} (h : folder = base ∨ folder = base ++ [separator]) :
    names folder = names base := by
  rcases h with rfl | rfl
  · rfl
  · rw [names, segments_base List.not_mem_nil, List.filter_append]
    exact List.append_nil _

theorem isAbsolute_front {front path : Text} (hne : front ≠ []) (h : front <+: path) :
    isAbsolute front = isAbsolute path := by
  obtain ⟨rest, rfl⟩ := h
  cases front with
  | nil => exact absurd rfl hne
  | cons c others => rw [List.cons_append, isAbsolute_cons, isAbsolute_cons]

theorem segments_join {file : Text} (hfile : separator ∉ file) (folder : Text) :
    ∃ front, segments (join folder file) = front ++ [file] ∧
      front.filter (!·.isEmpty) = names folder := by
  by_cases hempty : folder = []
  · subst hempty
    rw [join_nil]
    exact ⟨[], List.splitOn_eq_singleton hfile, rfl⟩
  · obtain ⟨base, hbase, hjoin⟩ := exists_base hfile hempty
    exact ⟨segments base, by rw [hjoin, segments_base hfile], (names_base hbase).symm⟩

theorem names_join {file : Text} (hfile : separator ∉ file) (hne : file ≠ []) (folder : Text) :
    names (join folder file) = names folder ++ [file] := by
  obtain ⟨front, hsegments, hfront⟩ := segments_join hfile folder
  rw [names, hsegments, List.filter_append, hfront]
  simp [hne]

theorem isAbsolute_join {file : Text} (hfile : separator ∉ file) (folder : Text) :
    isAbsolute (join folder file) = isAbsolute folder := by
  by_cases hempty : folder = []
  · subst hempty
    rw [join_nil, isAbsolute_eq_false hfile]
    rfl
  · obtain ⟨base, rfl | rfl, hjoin⟩ := exists_base hfile hempty
    · exact (isAbsolute_front hempty (hjoin ▸ List.prefix_append _ _)).symm
    · rw [hjoin, List.append_cons]
      exact (isAbsolute_front hempty (List.prefix_append _ _)).symm

theorem dropIdle_eq (segments : List Text) : dropIdle segments = segments.rdropWhile isIdle :=
  rfl

theorem prefix_of_dropIdle (segments : List Text) : dropIdle segments <+: segments :=
  List.rdropWhile_prefix isIdle segments

/-- A path that lies on the way to another one. -/
structure Above (path other : Text) : Prop where
  start : isAbsolute other = isAbsolute path
  names : names other <+: names path

theorem Above.refl (path : Text) : Above path path :=
  ⟨rfl, List.prefix_refl _⟩

theorem Above.trans {path other further : Text} (h : Above path other)
    (hfurther : Above other further) : Above path further :=
  ⟨hfurther.start.trans h.start, hfurther.names.trans h.names⟩

theorem dropLast_prefix_dropLast {front whole : List Text} (h : front <+: whole) :
    front.dropLast <+: whole.dropLast := by
  rw [whole.dropLast_eq_take, List.prefix_take_iff]
  refine ⟨(List.dropLast_prefix front).trans h, ?_⟩
  have hlength := h.length_le
  rw [List.length_dropLast]
  omega

/-- The text of a path with these segments; a path of one empty segment is the root. -/
def spelled (first : Text) (rest : List Text) : Text :=
  if first.isEmpty && rest.isEmpty then [separator] else [separator].intercalate (first :: rest)

theorem parent?_of_cut {path first : Text} {rest : List Text} (h : cut path = (first, rest))
    (hne : rest ≠ []) : parent? path = some (spelled first (dropIdle rest.dropLast)) := by
  unfold parent? spelled
  rw [h]
  cases rest with
  | nil => exact absurd rfl hne
  | cons => cases first <;> simp only <;> split_ifs <;> rfl

theorem segments_intercalate {pieces : List Text} (hne : pieces ≠ [])
    (h : ∀ piece ∈ pieces, separator ∉ piece) :
    segments ([separator].intercalate pieces) = pieces :=
  List.splitOn_intercalate separator h hne

theorem spelled_ne_nil {first : Text} {rest : List Text}
    (h : ∀ segment ∈ first :: rest, separator ∉ segment) : spelled first rest ≠ [] := by
  unfold spelled
  split_ifs with hroot
  · exact List.cons_ne_nil _ _
  · intro hnil
    have hsegments := segments_intercalate (List.cons_ne_nil first rest) h
    rw [hnil] at hsegments
    obtain ⟨rfl, rfl⟩ := List.cons.inj hsegments
    exact hroot rfl

theorem names_spelled {first : Text} {rest : List Text}
    (h : ∀ segment ∈ first :: rest, separator ∉ segment) :
    names (spelled first rest) = (first :: rest).filter (!·.isEmpty) := by
  unfold spelled
  split_ifs with hroot
  · simp only [Bool.and_eq_true, List.isEmpty_iff] at hroot
    rw [hroot.1, hroot.2]
    rfl
  · rw [names, segments_intercalate (List.cons_ne_nil first rest) h]

theorem isAbsolute_spelled {first : Text} {rest : List Text}
    (h : ∀ segment ∈ first :: rest, separator ∉ segment) :
    isAbsolute (spelled first rest) = true ↔ first = [] := by
  unfold spelled
  split_ifs with hroot
  · simp only [Bool.and_eq_true, List.isEmpty_iff] at hroot
    exact ⟨fun _ => hroot.1, fun _ => rfl⟩
  · rw [isAbsolute_iff, segments_intercalate (List.cons_ne_nil first rest) h]
    simp only [Bool.and_eq_true, List.isEmpty_iff, not_and] at hroot
    constructor
    · rintro ⟨_, _, heq⟩
      exact (List.cons.inj heq).1
    · intro hfirst
      exact ⟨rest, hroot hfirst, by rw [hfirst]⟩

theorem parent?_eq_some {path parent : Text} (h : parent? path = some parent) (hne : parent ≠ []) :
    isAbsolute parent = isAbsolute path ∧
      names parent <+: (segments path).dropLast.filter (!·.isEmpty) := by
  obtain ⟨first, others, hsegments⟩ :=
    List.exists_cons_of_ne_nil (List.splitOn_ne_nil separator path)
  change segments path = first :: others at hsegments
  have hcut : cut path = (first, dropIdle others) := by rw [cut, hsegments]
  have hidle := prefix_of_dropIdle others
  cases hothers : dropIdle others with
  | nil =>
    -- Such a path has no parent, or an empty one.
    rw [parent?, hcut, hothers] at h
    cases first with
    | nil => cases h
    | cons =>
      cases h
      exact absurd rfl hne
  | cons next rest =>
    rw [hothers] at hcut hidle
    have hne' : others ≠ [] := by
      rintro rfl
      simp at hidle
    have hinner : dropIdle (next :: rest).dropLast <+: others.dropLast :=
      (prefix_of_dropIdle _).trans (dropLast_prefix_dropLast hidle)
    rw [parent?_of_cut hcut (List.cons_ne_nil next rest)] at h
    generalize dropIdle (next :: rest).dropLast = inner at h hinner
    obtain rfl := Option.some.inj h
    have hseparated := separated_of_front hsegments (hinner.trans (List.dropLast_prefix _))
    constructor
    · rw [Bool.eq_iff_iff, isAbsolute_spelled hseparated, isAbsolute_iff, hsegments]
      simp [hne']
    · rw [names_spelled hseparated, hsegments, List.dropLast_cons_of_ne_nil hne']
      exact ((List.prefix_cons_inj first).mpr hinner).filter _

theorem above_of_mem_ancestors {fuel : Nat} {path other : Text} (h : other ∈ ancestors fuel path)
    (hne : other ≠ []) : Above path other := by
  induction fuel generalizing path with
  | zero =>
    rw [ancestors, List.mem_singleton] at h
    exact h ▸ Above.refl path
  | succ fuel ih =>
    rw [ancestors] at h
    cases hparent : parent? path with
    | none =>
      rw [hparent, List.mem_singleton] at h
      exact h ▸ Above.refl path
    | some parent =>
      rw [hparent, List.mem_cons] at h
      rcases h with rfl | h
      · exact Above.refl other
      · -- Above an empty parent there is nothing but the empty path.
        have hparent' : parent ≠ [] := by
          rintro rfl
          have hroot : ancestors fuel [] = [[]] := by cases fuel <;> rfl
          rw [hroot, List.mem_singleton] at h
          exact hne h
        obtain ⟨hstart, hnames⟩ := parent?_eq_some hparent hparent'
        have habove : Above path parent :=
          ⟨hstart, hnames.trans ((List.dropLast_prefix _).filter _)⟩
        exact habove.trans (ih h)

theorem directoryOf_join {file : Text} (hfile : separator ∉ file) (folder : Text) :
    SourceFile.directoryOf (join folder file) = "." ∨
      Above folder (SourceFile.directoryOf (join folder file)) := by
  unfold SourceFile.directoryOf
  split
  · rename_i c rest hparent
    right
    obtain ⟨hstart, hnames⟩ := parent?_eq_some hparent (List.cons_ne_nil c rest)
    obtain ⟨front, hsegments, hfront⟩ := segments_join hfile folder
    rw [hsegments, List.dropLast_concat, hfront] at hnames
    exact ⟨hstart.trans (isAbsolute_join hfile folder), hnames⟩
  · exact .inl rfl

section Folder

theorem filter_dropIdle (segments : List Text) :
    ∃ dots : List Text, segments.filter (!·.isEmpty) =
      (dropIdle segments).filter (!·.isEmpty) ++ dots ∧ ∀ name ∈ dots, name = "." := by
  refine ⟨(segments.rtakeWhile isIdle).filter (!·.isEmpty), ?_, ?_⟩
  · rw [dropIdle_eq, ← List.filter_append, List.rdropWhile_append_rtakeWhile]
  · intro name hm
    obtain ⟨hm, hfull⟩ := List.mem_filter.mp hm
    have hidle : isIdle name = true := List.mem_rtakeWhile_imp hm
    have hempty : name.isEmpty = false := by simpa using hfull
    rw [isIdle, hempty, Bool.false_or] at hidle
    exact beq_iff_eq.mp hidle

theorem intercalate_front (mark : Text) {front whole : List Text} (h : front <+: whole) :
    mark.intercalate front <+: mark.intercalate whole := by
  induction front generalizing whole with
  | nil => exact List.nil_prefix
  | cons first rest ih =>
    obtain ⟨others, rfl⟩ := h
    rw [List.cons_append]
    cases rest with
    | nil =>
      cases others with
      | nil => exact List.prefix_refl _
      | cons next others =>
        rw [List.nil_append, List.intercalate_cons_cons, List.intercalate_singleton,
          List.append_assoc]
        exact List.prefix_append _ _
    | cons next rest =>
      rw [List.cons_append, List.intercalate_cons_cons, List.intercalate_cons_cons,
        List.prefix_append_right_inj]
      exact ih (List.prefix_append (next :: rest) others)

variable {file folder : Text}

theorem spelled_front {base first : Text} {kept rest : List Text} (hne : folder ≠ [])
    (hbase : folder = base ∨ folder = base ++ [separator])
    (hsegments : segments base = first :: rest) (hkept : kept <+: rest) :
    spelled first kept <+: folder := by
  have hwhole : [separator].intercalate (first :: rest) = base := by
    rw [← hsegments]
    exact List.intercalate_splitOn separator
  have hfront : base <+: folder := by
    rcases hbase with rfl | rfl
    · exact List.prefix_refl _
    · exact List.prefix_append _ _
  unfold spelled
  split_ifs with hroot
  · simp only [Bool.and_eq_true, List.isEmpty_iff] at hroot
    obtain ⟨rfl, rfl⟩ := hroot
    cases rest with
    | nil =>
      have hempty : base = [] := hwhole.symm
      rcases hbase with rfl | rfl
      · exact absurd hempty hne
      · rw [hempty]
        exact List.prefix_refl _
    | cons next rest =>
      rw [← hwhole, List.intercalate_cons_cons, List.nil_append] at hfront
      exact (List.prefix_append _ _).trans hfront
  · rw [← hwhole] at hfront
    exact (intercalate_front _ ((List.prefix_cons_inj first).mpr hkept)).trans hfront

variable (hfile : separator ∉ file) (hname : isName file = true)

include hname in
theorem not_isIdle : isIdle file = false := by
  rw [isName, Bool.and_eq_true] at hname
  simpa using hname.1

include hfile hname

theorem fileName?_join (folder : Text) : fileName? (join folder file) = some file := by
  have hidle := not_isIdle hname
  obtain ⟨front, hsegments, _⟩ := segments_join hfile folder
  unfold fileName? cut
  rw [hsegments]
  cases front with
  | nil => simp [dropIdle_eq, hname]
  | cons first rest =>
    have hrest : dropIdle (rest ++ [file]) = rest ++ [file] :=
      List.rdropWhile_concat_neg _ _ _ (by simp [hidle])
    simp [hrest, hname]

theorem directoryOf_join_nil : SourceFile.directoryOf (join [] file) = "." := by
  have hcut : cut file = (file, []) := by
    unfold cut segments
    rw [List.splitOn_eq_singleton hfile]
    rfl
  unfold SourceFile.directoryOf parent?
  rw [join_nil, hcut]
  cases file with
  | nil => exact absurd hname (by decide)
  | cons => rfl

theorem directoryOf_base {base first : Text} {rest : List Text}
    (hsegments : segments base = first :: rest) :
    SourceFile.directoryOf (base ++ separator :: file) = spelled first (dropIdle rest) := by
  have hrest : dropIdle (rest ++ [file]) = rest ++ [file] :=
    List.rdropWhile_concat_neg _ _ _ (by simp [not_isIdle hname])
  have hcut : cut (base ++ separator :: file) = (first, rest ++ [file]) := by
    simp only [cut, segments_base hfile, hsegments, List.cons_append, hrest]
  have hparent := parent?_of_cut hcut (by simp)
  rw [List.dropLast_concat] at hparent
  have hne := spelled_ne_nil (separated_of_front hsegments (prefix_of_dropIdle rest))
  unfold SourceFile.directoryOf
  rw [hparent]
  cases hspelled : spelled first (dropIdle rest) with
  | nil => exact absurd hspelled hne
  | cons => rfl

theorem directoryOf_join_of_ne (hne : folder ≠ []) :
    SourceFile.directoryOf (join folder file) ≠ [] ∧
      SourceFile.directoryOf (join folder file) <+: folder ∧
      ∃ dots : List Text, names folder =
        names (SourceFile.directoryOf (join folder file)) ++ dots ∧ ∀ name ∈ dots, name = "." := by
  obtain ⟨base, hbase, hjoin⟩ := exists_base hfile hne
  obtain ⟨first, rest, hsegments⟩ :=
    List.exists_cons_of_ne_nil (List.splitOn_ne_nil separator base)
  change segments base = first :: rest at hsegments
  have hkept := prefix_of_dropIdle rest
  have hseparated := separated_of_front hsegments hkept
  obtain ⟨dots, hdots, hall⟩ := filter_dropIdle rest
  rw [hjoin, directoryOf_base hfile hname hsegments, names_spelled hseparated]
  refine ⟨spelled_ne_nil hseparated, spelled_front hne hbase hsegments hkept, dots, ?_, hall⟩
  rw [names_base hbase, names, hsegments, List.filter_cons, hdots, List.filter_cons]
  split_ifs <;> rfl

end Folder

end ContractProxy.Path
