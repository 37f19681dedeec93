import ContractProxy.Proofs.CSharp.Name
import ContractProxy.Proofs.TypeRef.Acceptance
import ContractProxy.Proofs.TypeRef.ArraySuffix
import ContractProxy.Text.Keyed

/-!
Which accepted references are spelled in full. A C# type is a name or a keyword, then the type
arguments, then the array suffixes. The spelling of a reference cuts its name at the backtick and
puts the arguments behind it, so array suffixes in the name are lost or misplaced as soon as there
is an arity or an argument.
-/

set_option autoImplicit false

namespace ContractProxy.TypeRef

def argumentList : List Text → Text
  | [] => []
  | first :: others => "<" ++ List.intercalate ", " (first :: others) ++ ">"

theorem csharpRest_eq (first : Text) (others : List TypeRef) :
    first ++ csharpRest others = List.intercalate ", " (first :: others.map csharp) := by
  induction others generalizing first with
  | nil => simp [csharpRest]
  | cons type others ih =>
    rw [csharpRest, List.map_cons, List.intercalate_cons_cons, ← ih]
    simp

theorem csharp_eq (type : TypeRef) :
    type.csharp = baseSpelling type.name ++ argumentList (type.arguments.map csharp) ++
      rankSuffix type.rank := by
  obtain ⟨name, arguments, rank⟩ := type
  cases arguments with
  | nil => simp [csharp, argumentList]
  | cons first others =>
    rw [csharp, List.map_cons, argumentList, ← csharpRest_eq]
    simp

theorem getLast?_argumentList {texts : List Text} (h : texts ≠ []) :
    (argumentList texts).getLast? = some '>' := by
  cases texts with
  | nil => exact absurd rfl h
  | cons first others =>
    have hlast : (">" : Text) = ['>'] := rfl
    rw [argumentList, hlast, List.getLast?_concat]

/-- A text that is a C# type for the reference: a dotted name, or a keyword without arguments, then
all arguments, then the suffixes in the name and that of the rank. -/
structure Spelling (type : TypeRef) (head base : Text) (ranks : List Nat) : Prop where
  parts : type.arrayParts = some (base, ranks)
  form : CSharp.isDottedName head = true ∨
    head ∈ primitiveKeywords.map Prod.snd ∧ head ≠ "void" ∧ type.arguments = []
  text : type.csharp = head ++ argumentList (type.arguments.map csharp) ++ suffixes ranks ++
    rankSuffix type.rank

def WellFormed (type : TypeRef) : Prop :=
  ∃ head base ranks, Spelling type head base ranks

/-- A well-formed spelling that also names the type referred to. -/
def SpelledInFull (type : TypeRef) : Prop :=
  ∃ head base ranks, Spelling type head base ranks ∧
    (head = dotted (stem base) ∨ (base, head) ∈ primitiveKeywords)

/-- A node with array suffixes in its name has neither arguments nor an arity, and a primitive type
has no arguments. -/
structure Regular (type : TypeRef) : Prop where
  suffixed : type.name.getLast? = some ']' → type.arguments = [] ∧ '\x60' ∉ type.name
  primitive : type.name ∈ primitiveKeywords.map Prod.fst → type.arguments = []

theorem lookup_of_mem {name : Text} (h : name ∈ primitiveKeywords.map Prod.fst) :
    ∃ keyword, primitiveKeywords.lookup name = some keyword := by
  cases hl : primitiveKeywords.lookup name with
  | some keyword => exact ⟨keyword, rfl⟩
  | none =>
    obtain ⟨⟨found, keyword⟩, hm, rfl⟩ := List.mem_map.mp h
    have hne := List.lookup_eq_none_iff.mp hl _ hm
    simp at hne

theorem keyword_of_lookup {name keyword : Text}
    (h : primitiveKeywords.lookup name = some keyword) :
    keyword ∈ primitiveKeywords.map Prod.snd :=
  List.mem_map.mpr ⟨(name, keyword), Keyed.mem_of_lookup h, rfl⟩

theorem not_isDottedName_keyword : ∀ keyword ∈ primitiveKeywords.map Prod.snd,
    CSharp.isDottedName keyword = false := by
  decide

theorem primitive_of_void : ∀ entry ∈ primitiveKeywords, entry.2 = "void" → entry.1 = voidName := by
  decide

theorem getLast?_primitive : ∀ name ∈ primitiveKeywords.map Prod.fst,
    name.getLast? ≠ some ']' := by
  decide

theorem lookup_of_suffixed {name : Text} (h : name.getLast? = some ']') :
    primitiveKeywords.lookup name = none := by
  cases hl : primitiveKeywords.lookup name with
  | none => rfl
  | some keyword =>
    have hm : name ∈ primitiveKeywords.map Prod.fst :=
      List.mem_map.mpr ⟨(name, keyword), Keyed.mem_of_lookup hl, rfl⟩
    exact absurd h (getLast?_primitive name hm)

theorem dotted_append (s t : Text) : dotted (s ++ t) = dotted s ++ dotted t := by
  simp [dotted]

theorem dotted_suffixes (ranks : List Nat) : dotted (suffixes ranks) = suffixes ranks := by
  unfold dotted
  conv_rhs => rw [← List.map_id (suffixes ranks)]
  apply List.map_congr_left
  intro c hc
  rcases mem_suffixes hc with rfl | rfl | rfl <;> rfl

theorem backtick_not_mem_suffixes (ranks : List Nat) : '\x60' ∉ suffixes ranks := by
  intro h
  rcases mem_suffixes h with h | h | h <;> simp at h

theorem stem_eq_self {base : Text} (h : '\x60' ∉ base) : stem base = base := by
  rw [stem_eq_takeWhile, List.takeWhile_eq_self_iff]
  intro c hc
  have hne : c ≠ '\x60' := fun heq => h (heq ▸ hc)
  simpa using hne

theorem baseSpelling_of_lookup {name : Text} (h : primitiveKeywords.lookup name = none) :
    baseSpelling name = dotted (stem name) := by
  rw [baseSpelling, h, stem_eq_takeWhile]

theorem stem_append_of_mem {base rest : Text} (h : '\x60' ∈ base) :
    stem (base ++ rest) = stem base := by
  rw [stem_eq_takeWhile, stem_eq_takeWhile, List.takeWhile_append, if_neg]
  intro hlen
  have hself := List.takeWhile_eq_self_iff.mp
    ((List.takeWhile_prefix (p := (· != '\x60')) (l := base)).eq_of_length hlen)
  simpa using hself '\x60' h

section

variable {type : TypeRef} {base : Text} {ranks : List Nat}

theorem spelling_of_regular (hregular : type.Regular)
    (hparts : type.arrayParts = some (base, ranks))
    (hnode : SoundNode type.name type.arguments.length type.rank base ranks) :
    type.SpelledInFull := by
  obtain ⟨hname, _⟩ := name_eq_of_arrayParts hparts
  by_cases hranks : ranks = []
  · have hbase : type.name = base := by
      rw [hname, hranks, suffixes_nil, List.append_nil]
    cases hl : primitiveKeywords.lookup base with
    | some keyword =>
      have hm := Keyed.mem_of_lookup hl
      have hkey : keyword ≠ "void" := by
        intro hvoid
        have hb : base = voidName := primitive_of_void _ hm hvoid
        exact hnode.notVoid (by rw [hb]; rfl)
      have harguments : type.arguments = [] :=
        hregular.primitive (List.mem_map.mpr ⟨_, hm, hbase.symm⟩)
      refine ⟨keyword, base, ranks, ⟨hparts, ?_, ?_⟩, .inr hm⟩
      · exact .inr ⟨keyword_of_lookup hl, hkey, harguments⟩
      · rw [csharp_eq, hbase, baseSpelling, hl, hranks, suffixes_nil, List.append_nil]
    | none =>
      refine ⟨dotted (stem base), base, ranks, ⟨hparts, .inl hnode.named, ?_⟩, .inl rfl⟩
      rw [csharp_eq, hbase, baseSpelling_of_lookup hl, hranks, suffixes_nil, List.append_nil]
  · have hlast := (getLast?_name_eq_bracket_iff hparts).mpr hranks
    obtain ⟨harguments, hback⟩ := hregular.suffixed hlast
    have hbase : '\x60' ∉ base := by
      intro hm
      exact hback (by rw [hname]; exact List.mem_append_left _ hm)
    refine ⟨dotted (stem base), base, ranks, ⟨hparts, .inl hnode.named, ?_⟩, .inl rfl⟩
    rw [csharp_eq, baseSpelling_of_lookup (lookup_of_suffixed hlast), stem_eq_self hback,
      stem_eq_self hbase, hname, dotted_append, dotted_suffixes, harguments]
    simp [argumentList]

theorem Spelling.front {head : Text} (h : Spelling type head base ranks) :
    baseSpelling type.name ++ argumentList (type.arguments.map csharp) =
      head ++ argumentList (type.arguments.map csharp) ++ suffixes ranks := by
  have htext := h.text
  rw [csharp_eq] at htext
  exact List.append_cancel_right htext

theorem Spelling.arguments_eq_nil {head : Text} (h : Spelling type head base ranks)
    (hranks : ranks ≠ []) : type.arguments = [] := by
  by_contra harguments
  have hlist : type.arguments.map csharp ≠ [] := by simpa using harguments
  have hlast := congrArg List.getLast? h.front
  rw [List.getLast?_append, List.getLast?_append, getLast?_argumentList hlist,
    getLast?_suffixes hranks] at hlast
  simp at hlast

theorem regular_of_spelling {head : Text} (h : Spelling type head base ranks)
    (hnode : SoundNode type.name type.arguments.length type.rank base ranks) :
    type.Regular := by
  obtain ⟨hname, _⟩ := name_eq_of_arrayParts h.parts
  constructor
  · intro hlast
    have hranks := (getLast?_name_eq_bracket_iff h.parts).mp hlast
    have harguments := h.arguments_eq_nil hranks
    refine ⟨harguments, ?_⟩
    intro hback
    have hbase : '\x60' ∈ base := by
      rw [hname, List.mem_append] at hback
      exact hback.resolve_right (backtick_not_mem_suffixes ranks)
    -- The suffixes are cut off with the arity, so the spelling is the dotted name alone.
    have hfront := h.front
    rw [harguments, List.map_nil, argumentList, List.append_nil, List.append_nil,
      baseSpelling_of_lookup (lookup_of_suffixed hlast), hname, stem_append_of_mem hbase] at hfront
    have hbracket : ']' ∈ dotted (stem base) := by
      rw [hfront]
      exact List.mem_append_right head (List.mem_of_getLast? (getLast?_suffixes hranks))
    exact CSharp.not_mem_of_isDottedName hnode.named (by decide) (by decide) hbracket
  · intro hprimitive
    have hranks : ranks = [] := by
      by_contra hne
      exact getLast?_primitive _ hprimitive ((getLast?_name_eq_bracket_iff h.parts).mpr hne)
    obtain ⟨keyword, hl⟩ := lookup_of_mem hprimitive
    have hfront := h.front
    rw [hranks, suffixes_nil, List.append_nil, baseSpelling, hl] at hfront
    have hhead : keyword = head := List.append_cancel_right hfront
    rcases h.form with hdotted | ⟨_, _, harguments⟩
    · have hnot := not_isDottedName_keyword keyword (keyword_of_lookup hl)
      rw [hhead, hdotted] at hnot
      cases hnot
    · exact harguments

end

/-- Each node of an accepted reference is spelled in full, or at least well-formed, exactly if it
is regular. -/
theorem spelledInFull_iff_regular {type : TypeRef} (h : type.check = .ok ()) :
    ∀ node ∈ type.nodes,
      (node.SpelledInFull ↔ node.Regular) ∧ (node.WellFormed ↔ node.Regular) := by
  intro node hm
  have hcheck := check_of_mem_nodes h hm
  obtain ⟨name, arguments, rank⟩ := node
  obtain ⟨base, ranks, hnode⟩ := checkNode_eq_ok_iff.mp (check_eq_ok_iff.mp hcheck).1
  have hregular : WellFormed ⟨name, arguments, rank⟩ → Regular ⟨name, arguments, rank⟩ := by
    intro h
    obtain ⟨head, base', ranks', hspelling⟩ := h
    have hsame : (base', ranks') = (base, ranks) :=
      Option.some.inj (hspelling.parts.symm.trans hnode.parts)
    obtain ⟨rfl, rfl⟩ := Prod.mk.inj hsame
    exact regular_of_spelling hspelling hnode
  have hfull : Regular ⟨name, arguments, rank⟩ → SpelledInFull ⟨name, arguments, rank⟩ :=
    fun hr => spelling_of_regular hr hnode.parts hnode
  have hwell : SpelledInFull ⟨name, arguments, rank⟩ → WellFormed ⟨name, arguments, rank⟩ := by
    intro h
    obtain ⟨head, base', ranks', hspelling, _⟩ := h
    exact ⟨head, base', ranks', hspelling⟩
  exact ⟨⟨fun hs => hregular (hwell hs), hfull⟩, ⟨hregular, fun hr => hwell (hfull hr)⟩⟩

def innerArrays : TypeRef :=
  ofSpelling "Acme.Outer+Inner[][]"

def dictionary : TypeRef :=
  generic "System.Collections.Generic.IDictionary\x602" [named "System.String", innerArrays]

theorem check_dictionary : dictionary.check = .ok () := by
  decide

theorem spelledInFull_iff_regular_dictionary :
    dictionary.check = .ok () ∧ innerArrays ∈ dictionary.nodes ∧ innerArrays.Regular ∧
      innerArrays.SpelledInFull := by
  have hm : innerArrays ∈ dictionary.nodes := by decide +kernel
  have hregular : innerArrays.Regular := ⟨fun _ => by decide +kernel, fun _ => rfl⟩
  have hnode := spelledInFull_iff_regular check_dictionary innerArrays hm
  exact ⟨check_dictionary, hm, hregular, hnode.1.mpr hregular⟩

def listArrays : TypeRef :=
  ⟨"System.Collections.Generic.IList\x601[]", [named "System.String"], 1⟩

/-- The inner suffix of arrays of arrays of lists is lost: whatever the head, there is one suffix
where there should be two. -/
theorem not_wellFormed_listArrays :
    listArrays.check = .ok () ∧
      listArrays.arrayParts = some (("System.Collections.Generic.IList\x601" : Text), [1]) ∧
      listArrays.csharp = "System.Collections.Generic.IList<string>[]" ∧
      ¬ listArrays.WellFormed := by
  refine ⟨by decide +kernel, by decide +kernel, by decide +kernel, ?_⟩
  intro h
  obtain ⟨head, base, ranks, hspelling⟩ := h
  have hranks : ranks ≠ [] := (getLast?_name_eq_bracket_iff hspelling.parts).mp (by decide +kernel)
  have harguments := hspelling.arguments_eq_nil hranks
  simp [listArrays] at harguments

end ContractProxy.TypeRef
