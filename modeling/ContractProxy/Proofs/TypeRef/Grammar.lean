import ContractProxy.Proofs.CSharp.Name
import ContractProxy.Proofs.Text.Field
import ContractProxy.Proofs.TypeRef.Acceptance
import ContractProxy.Proofs.TypeRef.ArraySuffix
import Mathlib.Order.Bounds.Basic
import Mathlib.Order.MinMax

/-!
The grammar of accepted type references. A name is a row of words, then the number of arguments
behind a backtick or nothing, then array suffixes. The check reads it from the right, but there is
only one way to take a name apart.
-/

set_option autoImplicit false

namespace ContractProxy.TypeRef

def IsWord (word : Text) : Prop :=
  CSharp.isIdentifier word = true ∧ CSharp.isKeyword word = false

/-- Words, with a dot or a plus sign between each and the next. -/
inductive Words : Text → Prop where
  | word {word : Text} : IsWord word → Words word
  | inner {word rest : Text} {mark : Char} : IsWord word → mark = '.' ∨ mark = '+' → Words rest →
      Words (word ++ mark :: rest)

def joins (c : Char) : Bool :=
  c == '.' || c == '+'

theorem joins_iff {c : Char} : joins c = true ↔ c = '.' ∨ c = '+' := by
  simp [joins]

theorem joins_eq_false_of_continues {c : Char} (h : CSharp.continuesIdentifier c = true) :
    joins c = false := by
  rw [← Bool.not_eq_true, joins_iff]
  intro hmark
  rcases hmark with rfl | rfl
  · have hdot : CSharp.continuesIdentifier '.' = false := by decide
    rw [hdot] at h
    cases h
  · have hplus : CSharp.continuesIdentifier '+' = false := by decide
    rw [hplus] at h
    cases h

theorem IsWord.joins_eq_false {word : Text} (h : IsWord word) : ∀ c ∈ word, joins c = false :=
  fun _ hc => joins_eq_false_of_continues (CSharp.continuesIdentifier_of_mem h.1 hc)

theorem dotted_eq_self {text : Text} (h : ∀ c ∈ text, joins c = false) : dotted text = text := by
  unfold dotted
  conv_rhs => rw [← List.map_id text]
  apply List.map_congr_left
  intro c hc
  have hplus : c ≠ '+' := fun heq => by simpa [joins, heq] using h c hc
  simp [hplus]

theorem dot_not_mem {text : Text} (h : ∀ c ∈ text, joins c = false) : '.' ∉ text := by
  intro hm
  have hdot := h '.' hm
  simp [joins] at hdot

theorem isDottedName_dotted {text : Text} (h : ∀ c ∈ text, joins c = false) :
    CSharp.isDottedName (dotted text) = true ↔ IsWord text := by
  rw [dotted_eq_self h, CSharp.isDottedName, List.splitOn_eq_singleton (dot_not_mem h)]
  simp [IsWord]

theorem isDottedName_dotted_append {text : Text} (h : ∀ c ∈ text, joins c = false) {mark : Char}
    (hmark : joins mark = true) (rest : Text) :
    CSharp.isDottedName (dotted (text ++ mark :: rest)) = true ↔
      IsWord text ∧ CSharp.isDottedName (dotted rest) = true := by
  have hdotted : dotted (text ++ mark :: rest) = text ++ '.' :: dotted rest := by
    have hjoined : dotted (mark :: rest) = '.' :: dotted rest := by
      rcases joins_iff.mp hmark with rfl | rfl <;> rfl
    rw [← hjoined]
    conv_rhs => rw [← dotted_eq_self h]
    exact List.map_append
  rw [hdotted, CSharp.isDottedName, CSharp.isDottedName, List.splitOn_append_cons_self,
    List.splitOn_eq_singleton (dot_not_mem h)]
  simp [IsWord]

theorem isDottedName_dotted_iff {stem : Text} :
    CSharp.isDottedName (dotted stem) = true ↔ Words stem := by
  constructor
  · intro h
    induction stem using Text.cutInduction joins with
    | last s hs => exact .word ((isDottedName_dotted hs).mp h)
    | cut s c t hs hc ih =>
      obtain ⟨hword, hrest⟩ := (isDottedName_dotted_append hs hc t).mp h
      exact .inner hword (joins_iff.mp hc) (ih hrest)
  · intro h
    induction h with
    | word hword => exact (isDottedName_dotted hword.joins_eq_false).mpr hword
    | inner hword hmark _ ih =>
      exact (isDottedName_dotted_append hword.joins_eq_false (joins_iff.mpr hmark) _).mpr
        ⟨hword, ih⟩

theorem Words.not_mem {stem : Text} (h : Words stem) {c : Char} (hjoins : joins c = false)
    (hc : CSharp.continuesIdentifier c = false) : c ∉ stem := by
  have hword : ∀ {word : Text}, IsWord word → c ∉ word := by
    intro word hword hm
    have hcontinues := CSharp.continuesIdentifier_of_mem hword.1 hm
    rw [hc] at hcontinues
    cases hcontinues
  induction h with
  | word hw => exact hword hw
  | inner hw hmark _ ih =>
    rw [List.mem_append, List.mem_cons]
    intro hm
    rcases hm with hm | rfl | hm
    · exact hword hw hm
    · rw [joins_iff.mpr hmark] at hjoins
      cases hjoins
    · exact ih hm

def numeralValue (digits : Text) : Nat :=
  Nat.ofDigitChars 10 digits 0

/-- A run of decimal digits whose value fits a word of 64 bits. -/
structure Numeral (digits : Text) : Prop where
  nonempty : digits ≠ []
  decimal : ∀ c ∈ digits, c.isDigit = true
  fits : numeralValue digits < UInt64.size

theorem arity?_eq_some_iff {digits : Text} {count : Nat} :
    arity? digits = some count ↔ Numeral digits ∧ numeralValue digits = count := by
  have hvalue : digits.foldl (fun n c => 10 * n + (c.toNat - 48)) 0 = numeralValue digits := rfl
  simp only [arity?, hvalue]
  constructor
  · intro h
    split_ifs at h with hrun hfits
    have hdigits : digits ≠ [] ∧ ∀ c ∈ digits, c.isDigit = true := by simpa using hrun
    exact ⟨⟨hdigits.1, hdigits.2, hfits⟩, Option.some.inj h⟩
  · intro h
    obtain ⟨⟨hne, hdecimal, hfits⟩, hcount⟩ := h
    rw [if_neg (by simpa using ⟨hne, hdecimal⟩), if_pos hfits, hcount]

theorem arity?_eq_none_iff {digits : Text} : arity? digits = none ↔ ¬ Numeral digits := by
  rw [Option.eq_none_iff_forall_ne_some]
  constructor
  · intro h hnumeral
    exact h _ (arity?_eq_some_iff.mpr ⟨hnumeral, rfl⟩)
  · intro h count hcount
    exact h (arity?_eq_some_iff.mp hcount).1

/-- What stands behind the words: a backtick and the text of the arity, or nothing. -/
def aritySuffix : Option Text → Text
  | none => []
  | some digits => '\x60' :: digits

theorem splitArity_append {stem : Text} (h : '\x60' ∉ stem) (digits : Option Text) :
    splitArity (stem ++ aritySuffix digits) = (stem, digits) := by
  have hstem : ∀ c ∈ stem, (c != '\x60') = true := by
    intro c hc
    rw [bne_iff_ne]
    exact ne_of_mem_of_not_mem hc h
  unfold splitArity
  rw [List.dropWhile_append_of_pos hstem, List.takeWhile_append_of_pos hstem]
  cases digits <;> simp [aritySuffix]

theorem exists_eq_append_aritySuffix (base : Text) :
    ∃ stem digits, base = stem ++ aritySuffix digits ∧ '\x60' ∉ stem := by
  by_cases h : '\x60' ∈ base
  · obtain ⟨stem, digits, hbase, hstem⟩ := List.eq_append_cons_of_mem h
    exact ⟨stem, some digits, hbase, hstem⟩
  · exact ⟨base, none, (List.append_nil base).symm, h⟩

theorem splitArity_eq_iff {base stem : Text} {digits : Option Text} :
    splitArity base = (stem, digits) ↔ base = stem ++ aritySuffix digits ∧ '\x60' ∉ stem := by
  obtain ⟨front, text, rfl, hfront⟩ := exists_eq_append_aritySuffix base
  constructor
  · intro h
    rw [splitArity_append hfront] at h
    cases h
    exact ⟨rfl, hfront⟩
  · intro h
    rw [h.1, splitArity_append h.2]

/-- A name taken apart: the words up to the first backtick, the text of the arity behind it if there
is one, and the ranks of the array suffixes, which are all there are. -/
structure Parts (name stem : Text) (digits : Option Text) (ranks : List Nat) : Prop where
  text : name = stem ++ aritySuffix digits ++ suffixes ranks
  first : '\x60' ∉ stem
  all : (stem ++ aritySuffix digits).getLast? ≠ some ']'
  positive : ∀ rank ∈ ranks, 0 < rank

theorem parts_iff {name stem : Text} {digits : Option Text} {ranks : List Nat} :
    Parts name stem digits ranks ↔
      ∃ base, peelSuffixes none [] name.reverse = some (base, ranks) ∧
        splitArity base = (stem, digits) := by
  constructor
  · intro h
    exact ⟨stem ++ aritySuffix digits, peelSuffixes_eq_some_iff.mpr ⟨h.text, h.all, h.positive⟩,
      splitArity_append h.first digits⟩
  · intro h
    obtain ⟨base, hparts, hbase⟩ := h
    obtain ⟨hname, hlast, hpositive⟩ := peelSuffixes_eq_some_iff.mp hparts
    obtain ⟨rfl, hfirst⟩ := splitArity_eq_iff.mp hbase
    exact ⟨hname, hfirst, hlast, hpositive⟩

theorem Parts.unique {name stem stem' : Text} {digits digits' : Option Text}
    {ranks ranks' : List Nat} (h : Parts name stem digits ranks)
    (h' : Parts name stem' digits' ranks') : stem' = stem ∧ digits' = digits ∧ ranks' = ranks := by
  obtain ⟨base, hparts, hbase⟩ := parts_iff.mp h
  obtain ⟨base', hparts', hbase'⟩ := parts_iff.mp h'
  rw [hparts] at hparts'
  cases hparts'
  rw [hbase] at hbase'
  cases hbase'
  exact ⟨rfl, rfl, rfl⟩

theorem exists_parts_iff {name : Text} :
    (∃ stem digits ranks, Parts name stem digits ranks) ↔ ¬ MalformedBrackets name := by
  rw [← peelSuffixes_eq_none_iff]
  constructor
  · intro h hnone
    obtain ⟨stem, digits, ranks, hparts⟩ := h
    obtain ⟨base, hpeel, _⟩ := parts_iff.mp hparts
    rw [hpeel] at hnone
    cases hnone
  · intro h
    obtain ⟨⟨base, ranks⟩, hpeel⟩ := Option.ne_none_iff_exists'.mp h
    exact ⟨_, _, ranks, parts_iff.mpr ⟨base, hpeel, rfl⟩⟩

def ranksOf (ranks : List Nat) (rank : UInt32) : Set Nat :=
  {r | r = rank.toNat ∨ r ∈ ranks}

theorem isGreatest_foldl_max (start : Nat) (ranks : List Nat) :
    IsGreatest {r | r = start ∨ r ∈ ranks} (ranks.foldl max start) := by
  have hmax : (start :: ranks).max? = some (ranks.foldl max start) := List.max?_cons'
  obtain ⟨hmem, hupper⟩ := List.max?_eq_some_iff.mp hmax
  exact ⟨List.mem_cons.mp hmem, fun r hr => hupper r (List.mem_cons.mpr hr)⟩

theorem foldl_max_map_min (limit start : Nat) (ranks : List Nat) :
    (ranks.map (min · limit)).foldl max (min start limit) = min (ranks.foldl max start) limit := by
  induction ranks generalizing start with
  | nil => rfl
  | cons rank rest ih =>
    rw [List.map_cons, List.foldl_cons, List.foldl_cons, ← ih, min_max_distrib_right]

theorem widestRank_of_isGreatest {ranks : List Nat} {rank : UInt32} {largest : Nat}
    (h : IsGreatest (ranksOf ranks rank) largest) :
    widestRank ranks rank = min largest (UInt32.size - 1) := by
  have hword : rank.toNat ≤ 4294967295 := Nat.le_of_lt_succ rank.toNat_lt
  have hlargest : largest = ranks.foldl max rank.toNat :=
    h.unique (isGreatest_foldl_max rank.toNat ranks)
  rw [hlargest, widestRank]
  conv_lhs => rw [← min_eq_left hword]
  exact foldl_max_map_min 4294967295 rank.toNat ranks

theorem exists_isGreatest (ranks : List Nat) (rank : UInt32) :
    ∃ largest, IsGreatest (ranksOf ranks rank) largest :=
  ⟨_, isGreatest_foldl_max rank.toNat ranks⟩

theorem widestRank_le_iff {ranks : List Nat} {rank : UInt32} :
    widestRank ranks rank ≤ maxRank ↔ ∀ r ∈ ranksOf ranks rank, r ≤ maxRank := by
  obtain ⟨largest, hlargest⟩ := exists_isGreatest ranks rank
  have hmin : min largest (UInt32.size - 1) ≤ maxRank ↔ largest ≤ maxRank := by
    simp only [maxRank, UInt32.size]
    omega
  rw [widestRank_of_isGreatest hlargest, hmin]
  constructor
  · intro h r hr
    exact (hlargest.2 hr).trans h
  · intro h
    exact h largest hlargest.1

/-- A node in the grammar, apart from its arguments. -/
structure Formed (name : Text) (arguments : Nat) (rank : UInt32) (stem : Text)
    (digits : Option Text) (ranks : List Nat) : Prop where
  text : name = stem ++ aritySuffix digits ++ suffixes ranks
  words : Words stem
  notVoid : stem ≠ voidName
  arity : ∀ numeral, digits = some numeral → Numeral numeral ∧ numeralValue numeral = arguments
  positive : ∀ r ∈ ranks, 0 < r
  narrow : ∀ r ∈ ranksOf ranks rank, r ≤ maxRank

inductive Grammatical : TypeRef → Prop where
  | node {name stem : Text} {arguments : List TypeRef} {rank : UInt32} {digits : Option Text}
      {ranks : List Nat} : Formed name arguments.length rank stem digits ranks →
      (∀ type ∈ arguments, Grammatical type) → Grammatical ⟨name, arguments, rank⟩

theorem grammatical_iff {name : Text} {arguments : List TypeRef} {rank : UInt32} :
    Grammatical ⟨name, arguments, rank⟩ ↔
      (∃ stem digits ranks, Formed name arguments.length rank stem digits ranks) ∧
        ∀ type ∈ arguments, Grammatical type := by
  constructor
  · intro h
    cases h with
    | node hformed harguments => exact ⟨⟨_, _, _, hformed⟩, harguments⟩
  · intro h
    obtain ⟨⟨stem, digits, ranks, hformed⟩, harguments⟩ := h
    exact .node hformed harguments

theorem Formed.parts {name stem : Text} {arguments : Nat} {rank : UInt32} {digits : Option Text}
    {ranks : List Nat} (h : Formed name arguments rank stem digits ranks) :
    Parts name stem digits ranks := by
  refine ⟨h.text, h.words.not_mem (by decide) (by decide), ?_, h.positive⟩
  intro hlast
  cases digits with
  | none =>
    rw [aritySuffix, List.append_nil] at hlast
    exact h.words.not_mem (by decide) (by decide) (List.mem_of_getLast? hlast)
  | some numeral =>
    obtain ⟨hnumeral, _⟩ := h.arity numeral rfl
    have hbracket : ']' ∈ numeral := by
      rw [aritySuffix, List.getLast?_append_of_ne_nil stem (by simp),
        List.getLast?_cons_of_ne_nil hnumeral.nonempty] at hlast
      exact List.mem_of_getLast? hlast
    have hdigit := hnumeral.decimal ']' hbracket
    simp at hdigit

theorem checkNode_eq_ok_iff_formed {name : Text} {arguments : Nat} {rank : UInt32} :
    checkNode name arguments rank = .ok () ↔
      ∃ stem digits ranks, Formed name arguments rank stem digits ranks := by
  rw [checkNode_eq_ok_iff]
  constructor
  · intro h
    obtain ⟨base, ranks, hsound⟩ := h
    have hparts : Parts name (stem base) (splitArity base).2 ranks :=
      parts_iff.mpr ⟨base, hsound.parts, rfl⟩
    refine ⟨stem base, (splitArity base).2, ranks, hparts.text,
      isDottedName_dotted_iff.mp hsound.named, hsound.notVoid, ?_, hparts.positive,
      widestRank_le_iff.mp hsound.narrow⟩
    intro numeral hnumeral
    exact arity?_eq_some_iff.mp (hsound.arity numeral hnumeral)
  · intro h
    obtain ⟨stem, digits, ranks, hformed⟩ := h
    obtain ⟨base, hpeel, hsplit⟩ := parts_iff.mp hformed.parts
    have hstem : TypeRef.stem base = stem := congrArg Prod.fst hsplit
    refine ⟨base, ranks, hpeel, widestRank_le_iff.mpr hformed.narrow, ?_, ?_, ?_⟩
    · rw [hstem]
      exact hformed.notVoid
    · rw [hstem]
      exact isDottedName_dotted_iff.mpr hformed.words
    · intro numeral hnumeral
      rw [hsplit] at hnumeral
      exact arity?_eq_some_iff.mpr (hformed.arity numeral hnumeral)

theorem check_eq_ok_iff_grammatical (type : TypeRef) : type.check = .ok () ↔ Grammatical type := by
  induction type using argumentInduction with
  | node name arguments rank ih =>
    rw [check_eq_ok_iff, checkNode_eq_ok_iff_formed, grammatical_iff, forall₂_congr ih]

example : (generic "Acme.Outer+Pair`2[,][]" [named "Acme.Item", named "T[]"]).check = .ok () := by
  decide +kernel

end ContractProxy.TypeRef
