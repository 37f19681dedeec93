import ContractProxy.Proofs.CSharp.Name
import ContractProxy.Proofs.Text.Field
import ContractProxy.Proxy.Options

/-!
Types in source text, as a base type has them: a name, or a name and type arguments between angle
brackets, with blanks around any part. Whether a text is one depends on its form and on the names in
it, and the form does not tell reserved words from others.
-/

set_option autoImplicit false

namespace ContractProxy.CSharp

open ProxyOptions (separatesNames)
open Text (fields fields_nil fields_append_cons fields_cons fields_concat fields_of_forall)

inductive TypePart where
  | name
  | type
  | arguments
  deriving DecidableEq, Repr

/-- The texts of a part of a type in which every name has a property. -/
inductive Spells (named : Text → Prop) : TypePart → Text → Prop
  | word {name : Text} : named name → Spells named .name name
  | plain {name : Text} : Spells named .name name → Spells named .type name
  | generic {name arguments : Text} : Spells named .name name →
      Spells named .arguments arguments → Spells named .type (name ++ '<' :: (arguments ++ ['>']))
  | last {type : Text} : Spells named .type type → Spells named .arguments type
  | more {type others : Text} : Spells named .type type → Spells named .arguments others →
      Spells named .arguments (type ++ ',' :: others)
  | leading {part : TypePart} {t : Text} : Spells named part t → Spells named part (' ' :: t)
  | trailing {part : TypePart} {t : Text} : Spells named part t → Spells named part (t ++ [' '])

/-- A type whose names are dotted names. -/
def IsType (t : Text) : Prop :=
  Spells (fun name => isDottedName name = true) .type t

/-- Identifiers between dots, reserved words among them. -/
def Dotted (name : Text) : Prop :=
  ∀ segment ∈ name.splitOn '.', isIdentifier segment = true

def Unreserved (name : Text) : Prop :=
  ∀ segment ∈ name.splitOn '.', isKeyword segment = false

theorem isDottedName_iff {name : Text} :
    isDottedName name = true ↔ Dotted name ∧ Unreserved name := by
  simp only [isDottedName, Dotted, Unreserved, List.all_eq_true, Bool.and_eq_true,
    Bool.not_eq_true']
  exact forall₂_and

theorem dotted_of_forall {t : Text} (hdot : ∀ c ∈ t, (c == '.') = false) :
    Dotted t ↔ isIdentifier t = true := by
  rw [Dotted, List.splitOn_eq_splitOnP, List.splitOnP_eq_singleton hdot]
  simp

theorem dotted_append_dot {s t : Text} (hdot : ∀ c ∈ s, (c == '.') = false) :
    Dotted (s ++ '.' :: t) ↔ isIdentifier s = true ∧ Dotted t := by
  rw [← dotted_of_forall hdot, Dotted, List.splitOn_append_cons_self, List.forall_mem_append]
  rfl

theorem separatesNames_eq_false {c : Char} (h : continuesIdentifier c = true) :
    separatesNames c = false := by
  cases hc : separatesNames c with
  | false => rfl
  | true =>
    simp only [separatesNames, Bool.or_eq_true, beq_iff_eq] at hc
    rcases hc with ((rfl | rfl) | rfl) | rfl <;> exact absurd h (by decide)

theorem ne_dot_of_continues {c : Char} (h : continuesIdentifier c = true) : c ≠ '.' := by
  rintro rfl
  have hdot : continuesIdentifier '.' = false := by decide
  rw [hdot] at h
  cases h

theorem Dotted.ne_nil {name : Text} (h : Dotted name) : name ≠ [] := by
  rintro rfl
  cases h [] List.mem_cons_self

theorem Dotted.separatesNames_eq_false {name : Text} (h : Dotted name) :
    ∀ c ∈ name, separatesNames c = false := by
  intro c hc
  rcases eq_dot_or_continues_of_segments h hc with rfl | hcont
  · rfl
  · exact CSharp.separatesNames_eq_false hcont

theorem Dotted.fields_eq {name : Text} (h : Dotted name) :
    fields separatesNames name = [name] :=
  fields_of_forall h.ne_nil h.separatesNames_eq_false

section

variable {named also : Text → Prop} {part : TypePart} {t : Text}

theorem Spells.mono (hle : ∀ name, named name → also name) (h : Spells named part t) :
    Spells also part t := by
  induction h with
  | word hname => exact .word (hle _ hname)
  | plain _ ih => exact .plain ih
  | generic _ _ ihname iharguments => exact .generic ihname iharguments
  | last _ ih => exact .last ih
  | more _ _ ihtype ihothers => exact .more ihtype ihothers
  | leading _ ih => exact .leading ih
  | trailing _ ih => exact .trailing ih

theorem fields_generic (name arguments : Text) :
    fields separatesNames (name ++ '<' :: (arguments ++ ['>'])) =
      fields separatesNames name ++ fields separatesNames arguments := by
  rw [fields_append_cons rfl, fields_concat rfl]

theorem Spells.of_mem_fields (hnamed : ∀ name, named name → fields separatesNames name = [name])
    (h : Spells named part t) : ∀ name ∈ fields separatesNames t, named name := by
  induction h with
  | word hname =>
    rw [hnamed _ hname]
    simpa using hname
  | plain _ ih => exact ih
  | generic _ _ ihname iharguments =>
    rw [fields_generic]
    exact List.forall_mem_append.mpr ⟨ihname, iharguments⟩
  | last _ ih => exact ih
  | more _ _ ihtype ihothers =>
    rw [fields_append_cons rfl]
    exact List.forall_mem_append.mpr ⟨ihtype, ihothers⟩
  | leading _ ih =>
    rw [fields_cons rfl]
    exact ih
  | trailing _ ih =>
    rw [fields_concat rfl]
    exact ih

theorem Spells.and_of_mem_fields
    (hnamed : ∀ name, named name → fields separatesNames name = [name]) (h : Spells named part t)
    (hfields : ∀ name ∈ fields separatesNames t, also name) :
    Spells (fun name => named name ∧ also name) part t := by
  induction h with
  | word hname =>
    rw [hnamed _ hname] at hfields
    exact .word ⟨hname, hfields _ List.mem_cons_self⟩
  | plain _ ih => exact .plain (ih hfields)
  | generic _ _ ihname iharguments =>
    rw [fields_generic] at hfields
    obtain ⟨hname, harguments⟩ := List.forall_mem_append.mp hfields
    exact .generic (ihname hname) (iharguments harguments)
  | last _ ih => exact .last (ih hfields)
  | more _ _ ihtype ihothers =>
    rw [fields_append_cons rfl] at hfields
    obtain ⟨htype, hothers⟩ := List.forall_mem_append.mp hfields
    exact .more (ihtype htype) (ihothers hothers)
  | leading _ ih =>
    rw [fields_cons rfl] at hfields
    exact .leading (ih hfields)
  | trailing _ ih =>
    rw [fields_concat rfl] at hfields
    exact .trailing (ih hfields)

end

theorem IsType.isDottedName_of_mem_fields {t : Text} (h : IsType t) :
    ∀ name ∈ fields separatesNames t, isDottedName name = true :=
  h.of_mem_fields fun _ hname => (isDottedName_iff.mp hname).1.fields_eq

theorem isType_iff {t : Text} :
    IsType t ↔ Spells Dotted .type t ∧ ∀ name ∈ fields separatesNames t, Unreserved name := by
  constructor
  · intro h
    refine ⟨h.mono fun _ hname => (isDottedName_iff.mp hname).1, ?_⟩
    intro name hm
    exact (isDottedName_iff.mp (h.isDottedName_of_mem_fields name hm)).2
  · intro h
    obtain ⟨hdotted, hfields⟩ := h
    have hboth := hdotted.and_of_mem_fields (fun _ hname => hname.fields_eq) hfields
    exact hboth.mono fun _ hname => isDottedName_iff.mpr hname

end ContractProxy.CSharp
