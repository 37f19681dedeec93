import ContractProxy.Proofs.TypeRef.ArraySuffix
import ContractProxy.TypeRef.Rendering
import Mathlib.Data.List.DropRight
import Mathlib.Data.List.TakeWhile

/-!
How plain spellings are read. The outermost array suffix of a spelling becomes the rank, and those
before it stay in the name. Main statements: names are cut into base and ranks wherever that can be
done, and a spelling is kept in full as long as its rank fits a word; there is one rank that the
count of commas does not reach.
-/

set_option autoImplicit false

namespace ContractProxy

namespace Text

theorem dropWhile_isBlank_eq_self_iff {t : Text} :
    t.dropWhile isBlank = t ↔ ∀ c ∈ t.head?, isBlank c = false := by
  rw [List.dropWhile_eq_self_iff]
  cases t <;> simp

theorem trim_eq_self_iff {t : Text} :
    trim t = t ↔ (∀ c ∈ t.head?, isBlank c = false) ∧ ∀ c ∈ t.getLast?, isBlank c = false := by
  have hlast : (t.reverse.dropWhile isBlank).reverse = t ↔
      ∀ c ∈ t.getLast?, isBlank c = false := by
    rw [List.reverse_eq_iff, dropWhile_isBlank_eq_self_iff, List.head?_reverse]
  rw [← dropWhile_isBlank_eq_self_iff, ← hlast]
  constructor
  · intro h
    have hdrop : t.dropWhile isBlank = t := by
      refine (List.dropWhile_suffix isBlank).eq_of_length_le ?_
      calc t.length = (trim t).length := by rw [h]
        _ ≤ (t.dropWhile isBlank).length := (List.rdropWhile_prefix isBlank _).length_le
    refine ⟨hdrop, ?_⟩
    rwa [trim, hdrop] at h
  · intro h
    rw [trim, h.1, h.2]

theorem trim_append {front back : Text} {c : Char} (hfront : trim front = front)
    (hne : front ≠ []) (hlast : back.getLast? = some c) (hc : isBlank c = false) :
    trim (front ++ back) = front ++ back := by
  rw [trim_eq_self_iff] at hfront ⊢
  constructor
  · rw [List.head?_append_of_ne_nil _ hne]
    exact hfront.1
  · rw [List.getLast?_append, hlast]
    simpa using hc

end Text

namespace TypeRef

/-- A name that is a base, which does not end in a bracket, and array suffixes. -/
structure Cut (name base : Text) (ranks : List Nat) : Prop where
  name_eq : name = base ++ suffixes ranks
  bare : base.getLast? ≠ some ']'
  counted : ∀ rank ∈ ranks, 0 < rank

theorem arrayParts_eq_some_iff {type : TypeRef} {base : Text} {ranks : List Nat} :
    type.arrayParts = some (base, ranks) ↔ Cut type.name base ranks := by
  rw [arrayParts, peelSuffixes_eq_some_iff]
  constructor
  · intro h
    obtain ⟨hname, hbare, hcounted⟩ := h
    exact ⟨hname, hbare, hcounted⟩
  · intro h
    exact ⟨h.name_eq, h.bare, h.counted⟩

theorem arrayParts_eq_none_iff {type : TypeRef} :
    type.arrayParts = none ↔ ∀ base ranks, ¬ Cut type.name base ranks := by
  simp only [← arrayParts_eq_some_iff, Option.eq_none_iff_forall_ne_some, Prod.forall]

theorem Cut.unique {name base other : Text} {ranks ranks' : List Nat} (h : Cut name base ranks)
    (hother : Cut name other ranks') : base = other ∧ ranks = ranks' := by
  have hparts : (named name).arrayParts = some (base, ranks) := arrayParts_eq_some_iff.mpr h
  rw [arrayParts_eq_some_iff.mpr hother] at hparts
  cases hparts
  exact ⟨rfl, rfl⟩

/-- A text with an array suffix of so many commas behind a front that is not empty. -/
structure OuterSuffix (text front : Text) (commas : Nat) : Prop where
  text_eq : text = front ++ arraySuffix (commas + 1)
  behind : front ≠ []

theorem reverse_append_arraySuffix (front : Text) (commas : Nat) :
    (front ++ arraySuffix (commas + 1)).reverse =
      ']' :: (List.replicate commas ',' ++ '[' :: front.reverse) := by
  simp [arraySuffix]

theorem outerSuffix?_eq_some_iff {text name : Text} {commas : Nat} :
    outerSuffix? text.reverse = some (name, commas) ↔ OuterSuffix text name.reverse commas := by
  constructor
  · intro h
    unfold outerSuffix? at h
    split at h
    · rename_i rest hrest
      split at h
      · rename_i front hfront
        split_ifs at h with hempty
        cases h
        have hcommas : rest.takeWhile (· == ',') =
            List.replicate (rest.takeWhile (· == ',')).length ',' :=
          List.eq_replicate_iff.mpr
            ⟨rfl, fun c hc => by simpa using List.mem_takeWhile_imp hc⟩
        refine ⟨?_, by simpa using hempty⟩
        rw [← List.reverse_inj, hrest, reverse_append_arraySuffix, List.reverse_reverse,
          ← hfront, ← hcommas, List.takeWhile_append_dropWhile]
      · cases h
    · cases h
  · intro h
    have hne : name ≠ [] := by simpa using h.behind
    rw [h.text_eq, reverse_append_arraySuffix, List.reverse_reverse]
    simp [outerSuffix?, hne]

theorem outerSuffix?_eq_none_iff {text : Text} :
    outerSuffix? text.reverse = none ↔ ∀ front commas, ¬ OuterSuffix text front commas := by
  rw [Option.eq_none_iff_forall_ne_some]
  constructor
  · intro h front commas houter
    refine h (front.reverse, commas) (outerSuffix?_eq_some_iff.mpr ?_)
    rwa [List.reverse_reverse]
  · intro h found hfound
    exact h _ _ (outerSuffix?_eq_some_iff.mp hfound)

theorem OuterSuffix.unique {text front other : Text} {commas commas' : Nat}
    (h : OuterSuffix text front commas) (hother : OuterSuffix text other commas') :
    front = other ∧ commas = commas' := by
  rw [← List.reverse_reverse front, ← outerSuffix?_eq_some_iff] at h
  rw [← List.reverse_reverse other, ← outerSuffix?_eq_some_iff, h] at hother
  simpa using hother

section

variable {spelling front : Text} {commas : Nat}

theorem ofSpelling_of_outerSuffix (h : OuterSuffix (Text.trim spelling) front commas) :
    ofSpelling spelling = ⟨front, [], rankOfCommas commas⟩ := by
  rw [← List.reverse_reverse front, ← outerSuffix?_eq_some_iff] at h
  simp only [ofSpelling, h, List.reverse_reverse]

theorem ofSpelling_of_not_outerSuffix
    (h : ∀ front commas, ¬ OuterSuffix (Text.trim spelling) front commas) :
    ofSpelling spelling = named (Text.trim spelling) := by
  rw [ofSpelling, outerSuffix?_eq_none_iff.mpr h]

theorem toNat_rankOfCommas (h : commas ≠ UInt32.size - 1) :
    (rankOfCommas commas).toNat = min (commas + 1) (UInt32.size - 1) := by
  unfold rankOfCommas
  split_ifs with hfits
  · have hword : (UInt32.ofNat commas).toNat = commas := UInt32.toNat_ofNat_of_lt' hfits
    have hone : (1 : UInt32).toNat = 1 := rfl
    rw [UInt32.toNat_add, hword]
    simp only [UInt32.size] at h hfits ⊢
    omega
  · have hmost : ((4294967294 : UInt32) + 1).toNat = 4294967295 := rfl
    simp only [UInt32.size] at hfits ⊢
    omega

theorem rankOfCommas_eq_zero_iff : rankOfCommas commas = 0 ↔ commas = UInt32.size - 1 := by
  constructor
  · intro hzero
    by_contra hfull
    have hrank := toNat_rankOfCommas hfull
    rw [hzero] at hrank
    simp only [UInt32.toNat_zero, UInt32.size] at hrank
    omega
  · intro hfull
    rw [hfull]
    decide

theorem rankSuffix_rankOfCommas (h : commas < UInt32.size - 1) :
    rankSuffix (rankOfCommas commas) = arraySuffix (commas + 1) := by
  have hne : rankOfCommas commas ≠ 0 := fun hzero =>
    Nat.ne_of_lt h (rankOfCommas_eq_zero_iff.mp hzero)
  rw [rankSuffix, if_neg (by simpa using hne), toNat_rankOfCommas (Nat.ne_of_lt h),
    Nat.min_eq_left h]

/-- The rank saturates, but for the one number of commas that fills the word: there the suffix is
lost. -/
theorem rank_ofSpelling (h : OuterSuffix (Text.trim spelling) front commas) :
    ((ofSpelling spelling).rank.toNat = min (commas + 1) (UInt32.size - 1) ∧
        0 < (ofSpelling spelling).rank.toNat ↔ commas ≠ UInt32.size - 1) ∧
      (commas = UInt32.size - 1 → ofSpelling spelling = named front) := by
  rw [ofSpelling_of_outerSuffix h]
  by_cases hfull : commas = UInt32.size - 1
  · have hzero : rankOfCommas commas = 0 := rankOfCommas_eq_zero_iff.mpr hfull
    rw [hzero]
    exact ⟨iff_of_false (fun h => Nat.lt_irrefl 0 h.2) (absurd hfull), fun _ => rfl⟩
  · have hrank := toNat_rankOfCommas hfull
    refine ⟨iff_of_true ⟨hrank, ?_⟩ hfull, fun h => absurd h hfull⟩
    rw [hrank]
    simp only [UInt32.size]
    omega

def boxArray (commas : Nat) : Text :=
  "Acme.Box" ++ arraySuffix (commas + 1)

theorem outerSuffix_boxArray (commas : Nat) :
    OuterSuffix (Text.trim (boxArray commas)) "Acme.Box" commas :=
  ⟨Text.trim_append (by decide) (by decide) (getLast?_arraySuffix _) (by decide), by decide⟩

theorem rank_ofSpelling_boxArray :
    OuterSuffix (Text.trim (boxArray 2)) "Acme.Box" 2 ∧ (ofSpelling (boxArray 2)).rank = 3 := by
  have houter := outerSuffix_boxArray 2
  have hrank := ((rank_ofSpelling houter).1.mpr (by decide)).1
  exact ⟨houter, UInt32.toNat_inj.mp hrank⟩

/-- With 4294967295 commas the rank is zero, not the largest word. -/
theorem rank_boxArray_full :
    OuterSuffix (Text.trim (boxArray 4294967295)) "Acme.Box" 4294967295 ∧
      (ofSpelling (boxArray 4294967295)).rank = 0 ∧
      (ofSpelling (boxArray 4294967295)).rank.toNat ≠ min (4294967295 + 1) (UInt32.size - 1) := by
  have houter := outerSuffix_boxArray 4294967295
  have hzero : (ofSpelling (boxArray 4294967295)).rank = 0 := by
    rw [ofSpelling_of_outerSuffix houter]
    exact rankOfCommas_eq_zero_iff.mpr rfl
  refine ⟨houter, hzero, ?_⟩
  rw [hzero]
  decide

theorem name_append_rankSuffix
    (h : ∀ front commas, OuterSuffix (Text.trim spelling) front commas → commas < UInt32.size - 1) :
    (ofSpelling spelling).name ++ rankSuffix (ofSpelling spelling).rank = Text.trim spelling := by
  by_cases houter : ∃ front commas, OuterSuffix (Text.trim spelling) front commas
  · obtain ⟨front, commas, houter⟩ := houter
    rw [ofSpelling_of_outerSuffix houter, rankSuffix_rankOfCommas (h front commas houter),
      ← houter.text_eq]
  · rw [ofSpelling_of_not_outerSuffix (by simpa using houter)]
    exact List.append_nil _

theorem rank_eq_zero_iff
    (h : ∀ front commas, OuterSuffix (Text.trim spelling) front commas → commas < UInt32.size - 1) :
    (ofSpelling spelling).rank = 0 ↔
      ∀ front commas, ¬ OuterSuffix (Text.trim spelling) front commas := by
  constructor
  · intro hzero front commas houter
    rw [ofSpelling_of_outerSuffix houter, rankOfCommas_eq_zero_iff] at hzero
    exact Nat.ne_of_lt (h front commas houter) hzero
  · intro hnone
    rw [ofSpelling_of_not_outerSuffix hnone]
    rfl

theorem ofSpelling_suffixes {base : Text} {ranks : List Nat} {rank : Nat}
    (htrim : Text.trim base = base) (hne : base ≠ []) (hrank : 0 < rank) :
    ofSpelling (base ++ suffixes ranks ++ arraySuffix rank) =
      ⟨base ++ suffixes ranks, [], rankOfCommas (rank - 1)⟩ := by
  refine ofSpelling_of_outerSuffix ⟨?_, by simp [hne]⟩
  have hlast : (suffixes ranks ++ arraySuffix rank).getLast? = some ']' := by
    rw [List.getLast?_append, getLast?_arraySuffix, Option.some_or]
  rw [List.append_assoc, Text.trim_append htrim hne hlast (by decide), List.append_assoc,
    Nat.sub_add_cancel hrank]

end

/-- Array suffixes are read exactly: a name is cut into a base and ranks wherever it can be, and a
spelling is kept in full, its outermost suffix as the rank and those before it in the name. -/
theorem arraySuffixes_exact :
    (∀ type : TypeRef,
      (∀ base ranks, type.arrayParts = some (base, ranks) ↔ Cut type.name base ranks) ∧
      (∀ base ranks other ranks', Cut type.name base ranks → Cut type.name other ranks' →
        base = other ∧ ranks = ranks') ∧
      (type.arrayParts = none ↔ ∀ base ranks, ¬ Cut type.name base ranks)) ∧
    (∀ spelling,
      (∀ front commas, OuterSuffix (Text.trim spelling) front commas →
        commas < UInt32.size - 1) →
      (ofSpelling spelling).name ++ rankSuffix (ofSpelling spelling).rank = Text.trim spelling ∧
      ((ofSpelling spelling).rank = 0 ↔
        ∀ front commas, ¬ OuterSuffix (Text.trim spelling) front commas)) ∧
    ∀ base ranks rank, Text.trim base = base → base ≠ [] → base.getLast? ≠ some ']' →
      (∀ inner ∈ ranks, 0 < inner) → 0 < rank → rank < UInt32.size →
      (ofSpelling (base ++ suffixes ranks ++ arraySuffix rank)).rank.toNat = rank ∧
      (ofSpelling (base ++ suffixes ranks ++ arraySuffix rank)).arrayParts =
        some (base, ranks) := by
  refine ⟨?_, ?_, ?_⟩
  · intro type
    exact ⟨fun _ _ => arrayParts_eq_some_iff, fun _ _ _ _ h hother => h.unique hother,
      arrayParts_eq_none_iff⟩
  · intro spelling h
    exact ⟨name_append_rankSuffix h, rank_eq_zero_iff h⟩
  · intro base ranks rank htrim hne hbare hcounted hrank hfits
    have hfull : rank - 1 ≠ UInt32.size - 1 := by omega
    rw [ofSpelling_suffixes htrim hne hrank]
    constructor
    · rw [toNat_rankOfCommas hfull]
      omega
    · exact arrayParts_eq_some_iff.mpr ⟨rfl, hbare, hcounted⟩

/-- Blanks around a spelling are not kept, and of its two suffixes one becomes the rank. -/
theorem arraySuffixes_exact_grid :
    Cut "Acme.Grid[][,]" "Acme.Grid" [1, 2] ∧
      (named "Acme.Grid[][,]").arrayParts = some (("Acme.Grid" : Text), [1, 2]) ∧
      (ofSpelling " Acme.Grid[][,]\n").name ++ rankSuffix (ofSpelling " Acme.Grid[][,]\n").rank =
        "Acme.Grid[][,]" ∧
      (ofSpelling "Acme.Grid[][,]").rank.toNat = 2 ∧
      (ofSpelling "Acme.Grid[][,]").arrayParts = some (("Acme.Grid" : Text), [1]) := by
  obtain ⟨hnames, hspellings, hsuffixes⟩ := arraySuffixes_exact
  have hcut : Cut "Acme.Grid[][,]" "Acme.Grid" [1, 2] := ⟨by decide, by decide, by decide⟩
  have htrim : Text.trim " Acme.Grid[][,]\n" = "Acme.Grid[][,]" := by decide
  have houter : OuterSuffix (Text.trim " Acme.Grid[][,]\n") "Acme.Grid[]" 1 :=
    ⟨by decide, by decide⟩
  have hkept := (hspellings " Acme.Grid[][,]\n" (fun front commas h => by
    obtain ⟨_, rfl⟩ := h.unique houter
    decide)).1
  rw [htrim] at hkept
  obtain ⟨hrank, hparts⟩ := hsuffixes "Acme.Grid" [1] 2 (by decide) (by decide) (by decide)
    (by decide) (by decide) (by decide)
  exact ⟨hcut, ((hnames (named "Acme.Grid[][,]")).1 _ _).mpr hcut, hkept, hrank, hparts⟩

end TypeRef

end ContractProxy
