import ContractProxy.Proofs.CSharp.Name
import ContractProxy.Proofs.TypeRef.Spelling
import ContractProxy.Proxy.Options

/-!
The marks of a source text: brackets, ends of statements and of lines, and what would begin a
literal, a comment or a directive. Names, accepted types and base types hold none of them, whatever
the metadata and the options are.
-/

set_option autoImplicit false

namespace ContractProxy

namespace CSharp

def structuralMarks : List Char := ['\x7b', '\x7d', '(', ')', ';', '=', '\n']

/-- Marks that no file needs behind its header: quotes, slashes, directives and carriage returns. -/
def foreignMarks : List Char := ['\'', '"', '/', '\\', '#', '\r']

def isMark (c : Char) : Bool :=
  structuralMarks.contains c || foreignMarks.contains c

def marks (t : Text) : Text :=
  t.filter isMark

theorem marks_append (s t : Text) : marks (s ++ t) = marks s ++ marks t :=
  List.filter_append s t

theorem marks_cons {c : Char} (h : isMark c = false) (t : Text) : marks (c :: t) = marks t :=
  List.filter_cons_of_neg (by simp [h])

theorem marks_eq_nil_iff {t : Text} : marks t = [] ↔ ∀ c ∈ t, isMark c = false := by
  simp [marks, List.filter_eq_nil_iff]

theorem mem_marks {t : Text} {c : Char} : c ∈ marks t ↔ c ∈ t ∧ isMark c = true :=
  List.mem_filter

theorem marks_intercalate {mark : Text} (hmark : marks mark = []) {pieces : List Text}
    (h : ∀ piece ∈ pieces, marks piece = []) : marks (mark.intercalate pieces) = [] := by
  rw [marks_eq_nil_iff]
  intro c hc
  rcases Text.mem_intercalate hc with hm | ⟨piece, hp, hm⟩
  · exact marks_eq_nil_iff.mp hmark c hm
  · exact marks_eq_nil_iff.mp (h piece hp) c hm

theorem isMark_eq_false_of_continues {c : Char} (h : continuesIdentifier c = true) :
    isMark c = false := by
  by_contra hmark
  have hnone : (structuralMarks ++ foreignMarks).all (!continuesIdentifier ·) = true := by
    decide
  simp only [isMark, Bool.not_eq_false, Bool.or_eq_true, List.contains_iff_mem] at hmark
  have hc := List.all_eq_true.mp hnone c (List.mem_append.mpr hmark)
  simp [h] at hc

theorem marks_of_isIdentifier {name : Text} (h : isIdentifier name = true) : marks name = [] := by
  rw [marks_eq_nil_iff]
  intro c hc
  exact isMark_eq_false_of_continues (continuesIdentifier_of_mem h hc)

theorem marks_of_isDottedName {name : Text} (h : isDottedName name = true) : marks name = [] := by
  rw [marks_eq_nil_iff]
  intro c hc
  rcases eq_dot_or_continues_of_mem h hc with rfl | hcont
  · decide
  · exact isMark_eq_false_of_continues hcont

theorem marks_escaped {name : Text} (h : marks name = []) : marks (escaped name) = [] := by
  unfold escaped
  split_ifs
  · rw [marks_cons (by decide), h]
  · exact h

end CSharp

open CSharp (marks marks_append marks_eq_nil_iff marks_intercalate)

namespace TypeRef

theorem marks_suffixes (ranks : List Nat) : marks (suffixes ranks) = [] := by
  rw [marks_eq_nil_iff]
  intro c hc
  rcases mem_suffixes hc with rfl | rfl | rfl <;> decide

theorem marks_rankSuffix (rank : UInt32) : marks (rankSuffix rank) = [] := by
  unfold rankSuffix
  split_ifs
  · rfl
  · rw [marks_eq_nil_iff]
    intro c hc
    rcases mem_arraySuffix hc with rfl | rfl | rfl <;> decide

theorem marks_keyword : ∀ entry ∈ primitiveKeywords, marks entry.2 = [] := by
  decide

theorem marks_baseSpelling {name base : Text} {arguments : Nat} {rank : UInt32} {ranks : List Nat}
    (h : SoundNode name arguments rank base ranks) : marks (baseSpelling name) = [] := by
  cases hl : primitiveKeywords.lookup name with
  | some keyword =>
    rw [baseSpelling, hl]
    exact marks_keyword _ (Keyed.mem_of_lookup hl)
  | none =>
    have hstem := CSharp.marks_of_isDottedName h.named
    have hparts : arrayParts ⟨name, [], rank⟩ = some (base, ranks) := h.parts
    have hname : name = base ++ suffixes ranks := (name_eq_of_arrayParts hparts).1
    -- An arity cuts the suffixes off with it; without one they stay, and hold no marks.
    rw [baseSpelling_of_lookup hl, hname]
    by_cases hback : '\x60' ∈ base
    · rw [stem_append_of_mem hback, hstem]
    · rw [stem_eq_self hback] at hstem
      rw [stem_eq_self, dotted_append, dotted_suffixes, marks_append, hstem, marks_suffixes]
      · rfl
      · rw [List.mem_append]
        rintro (hm | hm)
        · exact hback hm
        · exact backtick_not_mem_suffixes ranks hm

theorem marks_argumentList {texts : List Text} (h : ∀ text ∈ texts, marks text = []) :
    marks (argumentList texts) = [] := by
  cases texts with
  | nil => rfl
  | cons first others =>
    rw [argumentList, marks_append, marks_append, marks_intercalate rfl h]
    rfl

mutual

theorem marks_csharp : ∀ {type : TypeRef}, type.check = .ok () → marks type.csharp = []
  | ⟨name, arguments, rank⟩, h => by
    obtain ⟨hcheck, harguments⟩ := check_eq_ok_iff.mp h
    obtain ⟨base, ranks, hnode⟩ := checkNode_eq_ok_iff.mp hcheck
    rw [csharp_eq, marks_append, marks_append, marks_baseSpelling hnode, marks_rankSuffix,
      marks_argumentList (marks_csharpAll harguments)]
    rfl

theorem marks_csharpAll : ∀ {types : List TypeRef}, (∀ type ∈ types, type.check = .ok ()) →
    ∀ text ∈ types.map csharp, marks text = []
  | [], _, text, hm => by simp at hm
  | type :: others, h, text, hm => by
    rcases List.mem_cons.mp hm with rfl | hm
    · exact marks_csharp (h type (by simp))
    · exact marks_csharpAll (fun other ho => h other (by simp [ho])) text hm

end

end TypeRef

namespace Text

theorem mem_intercalate_of_mem {mark : Text} {pieces : List Text} {piece : Text}
    (hp : piece ∈ pieces) {c : Char} (hc : c ∈ piece) : c ∈ mark.intercalate pieces := by
  induction pieces with
  | nil => simp at hp
  | cons first rest ih =>
    cases rest with
    | nil =>
      rw [List.mem_singleton.mp hp] at hc
      simpa using hc
    | cons next rest =>
      rw [List.intercalate_cons_cons, List.mem_append, List.mem_append]
      rcases List.mem_cons.mp hp with rfl | hp
      · exact .inl (.inl hc)
      · exact .inr (ih hp)

theorem mem_splitOnP (separates : Char → Bool) {t : Text} {c : Char} (hc : c ∈ t) :
    separates c = true ∨ ∃ piece ∈ t.splitOnP separates, c ∈ piece := by
  induction t with
  | nil => simp at hc
  | cons first rest ih =>
    obtain ⟨piece, pieces, hpieces⟩ :=
      List.exists_cons_of_ne_nil (List.splitOnP_ne_nil separates rest)
    rw [List.splitOnP_cons_eq_if_modifyHead]
    by_cases hfirst : separates first = true
    · rw [if_pos hfirst]
      rcases List.mem_cons.mp hc with rfl | hc
      · exact .inl hfirst
      · rcases ih hc with hsep | ⟨found, hm, hin⟩
        · exact .inl hsep
        · exact .inr ⟨found, List.mem_cons_of_mem _ hm, hin⟩
    · rw [if_neg hfirst, hpieces, List.modifyHead_cons]
      rcases List.mem_cons.mp hc with rfl | hc
      · exact .inr ⟨c :: piece, by simp, by simp⟩
      · rcases ih hc with hsep | ⟨found, hm, hin⟩
        · exact .inl hsep
        · right
          rw [hpieces] at hm
          rcases List.mem_cons.mp hm with rfl | hm
          · exact ⟨first :: found, by simp, List.mem_cons_of_mem _ hin⟩
          · exact ⟨found, List.mem_cons_of_mem _ hm, hin⟩

end Text

namespace ProxyOptions

theorem isMark_eq_false_of_separates {c : Char} (h : separatesNames c = true) :
    CSharp.isMark c = false := by
  simp only [separatesNames, Bool.or_eq_true, beq_iff_eq] at h
  rcases h with ((rfl | rfl) | rfl) | rfl <;> decide

theorem marks_of_names {t : Text}
    (h : ((t.splitOnP separatesNames).filter (!·.isEmpty)).all CSharp.isDottedName = true) :
    marks t = [] := by
  rw [marks_eq_nil_iff]
  intro c hc
  rcases Text.mem_splitOnP separatesNames hc with hsep | ⟨piece, hp, hin⟩
  · exact isMark_eq_false_of_separates hsep
  · have hpiece : CSharp.isDottedName piece = true := by
      refine List.all_eq_true.mp h piece (List.mem_filter.mpr ⟨hp, ?_⟩)
      cases piece with
      | nil => simp at hin
      | cons => rfl
    exact marks_eq_nil_iff.mp (CSharp.marks_of_isDottedName hpiece) c hin

theorem marks_baseTypeOf {options : ProxyOptions} (h : isBaseType options.baseType = true)
    {contract : Text} (hcontract : marks contract = []) :
    marks (options.baseTypeOf contract) = [] := by
  unfold isBaseType at h
  unfold baseTypeOf
  split_ifs at h ⊢
  · refine marks_intercalate hcontract ?_
    intro piece hp
    rw [marks_eq_nil_iff]
    intro c hc
    exact marks_eq_nil_iff.mp (marks_of_names h) c (Text.mem_intercalate_of_mem hp hc)
  · rw [marks_append, marks_append, marks_append, CSharp.marks_of_isDottedName h, hcontract]
    rfl

end ProxyOptions

end ContractProxy
