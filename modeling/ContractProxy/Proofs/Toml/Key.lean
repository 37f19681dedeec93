import ContractProxy.Toml.Document
import Mathlib.Data.List.Basic

/-!
The keys of a TOML document. Whichever way a key is spelled, by a header, by a dotted key or within
an inline table, the table of the document holds it in the end: a statement adds its key, and no
later statement takes a key away.
-/

set_option autoImplicit false

namespace ContractProxy.Toml

/-- A value holds a dotted key if the tables on its way lead on. Any element of a list of tables
may. -/
inductive Holds : Toml → Key → Prop where
  | here (value : Toml) : Holds value []
  | entry {origin : Origin} {entries : Entries} {part : Text} {value : Toml} {rest : Key} :
      entries.lookup part = some value → Holds value rest →
      Holds (.table origin entries) (part :: rest)
  | element {last element : Toml} {earlier : List Toml} {key : Key} :
      element ∈ last :: earlier → Holds element key → Holds (.tables last earlier) key

def Keeps (before after : Toml) : Prop :=
  ∀ key, Holds before key → Holds after key

theorem Keeps.refl (value : Toml) : Keeps value value :=
  fun _ h => h

theorem Keeps.trans {first second third : Toml} (h : Keeps first second)
    (h' : Keeps second third) : Keeps first third :=
  fun key hkey => h' key (h key hkey)

section

variable {origin origin' : Origin} {entries : Entries} {part : Text} {value : Toml}

theorem holds_put {rest : Key} (h : Holds value rest) :
    Holds (.table origin (Keyed.put part value entries)) (part :: rest) :=
  .entry (by rw [Keyed.lookup_put, if_pos rfl]) h

theorem keeps_put (h : ∀ old, entries.lookup part = some old → Keeps old value) :
    Keeps (.table origin entries) (.table origin' (Keyed.put part value entries)) := by
  intro key hkey
  cases hkey with
  | here => exact .here _
  | @entry _ _ name old rest hlookup hrest =>
    by_cases hname : name = part
    · subst hname
      exact holds_put (h old hlookup rest hrest)
    · exact .entry (by rw [Keyed.lookup_put, if_neg hname, hlookup]) hrest

theorem keeps_table : Keeps (.table origin entries) (.table origin' entries) := by
  intro key hkey
  cases hkey with
  | here => exact .here _
  | entry hlookup hrest => exact .entry hlookup hrest

theorem keeps_tables {last changed : Toml} {earlier : List Toml} (h : Keeps last changed) :
    Keeps (.tables last earlier) (.tables changed earlier) := by
  intro key hkey
  cases hkey with
  | here => exact .here _
  | element hm helement =>
    rcases List.mem_cons.mp hm with rfl | hm
    · exact .element (by simp) (h key helement)
    · exact .element (List.mem_cons_of_mem _ hm) helement

theorem keeps_tables_cons {last next : Toml} {earlier : List Toml} :
    Keeps (.tables last earlier) (.tables next (last :: earlier)) := by
  intro key hkey
  cases hkey with
  | here => exact .here _
  | element hm helement => exact .element (List.mem_cons_of_mem _ hm) helement

end

/-- What a change finds at the first part of a key, and the value that it leaves there. A table that
is missing is made, and a list of tables stands for its last element. -/
inductive Passes (entries : Entries) (part : Text) : Toml → Toml → Toml → Prop where
  | made {origin : Origin} {after : Toml} : entries.lookup part = none →
      Passes entries part (.table origin []) after after
  | list {before after : Toml} {earlier : List Toml} :
      entries.lookup part = some (.tables before earlier) →
      Passes entries part before after (.tables after earlier)
  | table {before after : Toml} : entries.lookup part = some before →
      Passes entries part before after after

theorem Passes.keeps {entries : Entries} {part : Text} {before after value : Toml}
    (h : Passes entries part before after value) (hkeeps : Keeps before after) {old : Toml}
    (hold : entries.lookup part = some old) : Keeps old value := by
  cases h with
  | made hnone =>
    rw [hnone] at hold
    cases hold
  | list hlist =>
    rw [hlist] at hold
    cases hold
    exact keeps_tables hkeeps
  | table htable =>
    rw [htable] at hold
    cases hold
    exact hkeeps

theorem Passes.holds {entries : Entries} {part : Text} {before after value : Toml}
    (h : Passes entries part before after value) {key : Key} (hkey : Holds after key) :
    Holds value key := by
  cases h with
  | made => exact hkey
  | list => exact .element (by simp) hkey
  | table => exact hkey

section

variable {dotted : Bool} {change : Toml → Option Toml} {path : Key} {root root' : Toml}

theorem changeAt_cons_eq_some {part : Text}
    (h : changeAt dotted change (part :: path) root = some root') :
    ∃ origin entries before after value, root = .table origin entries ∧
      root' = .table origin (Keyed.put part value entries) ∧
      changeAt dotted change path before = some after ∧
      Passes entries part before after value := by
  cases root with
  | table origin entries =>
    rw [changeAt] at h
    split at h
    · rename_i hnone
      obtain ⟨after, hafter, h⟩ := Option.bind_eq_some_iff.mp h
      cases h
      exact ⟨origin, entries, _, after, after, rfl, rfl, hafter, .made hnone⟩
    · rename_i last earlier hlist
      obtain ⟨after, hafter, h⟩ := Option.bind_eq_some_iff.mp h
      cases h
      exact ⟨origin, entries, last, after, _, rfl, rfl, hafter, .list hlist⟩
    · rename_i htable
      split_ifs at h
      obtain ⟨after, hafter, h⟩ := Option.bind_eq_some_iff.mp h
      cases h
      exact ⟨origin, entries, _, after, after, rfl, rfl, hafter, .table htable⟩
    · cases h
  | _ => cases h

theorem keeps_changeAt (hchange : ∀ before after, change before = some after → Keeps before after)
    (h : changeAt dotted change path root = some root') : Keeps root root' := by
  induction path generalizing root root' with
  | nil => exact hchange root root' h
  | cons part path ih =>
    obtain ⟨origin, entries, before, after, value, rfl, rfl, hbelow, hpasses⟩ :=
      changeAt_cons_eq_some h
    exact keeps_put fun old hold => hpasses.keeps (ih hbelow) hold

theorem holds_changeAt {key : Key}
    (hchange : ∀ before after, change before = some after → Holds after key)
    (h : changeAt dotted change path root = some root') : Holds root' (path ++ key) := by
  induction path generalizing root root' with
  | nil => exact hchange root root' h
  | cons part path ih =>
    obtain ⟨origin, entries, before, after, value, rfl, rfl, hbelow, hpasses⟩ :=
      changeAt_cons_eq_some h
    exact holds_put (hpasses.holds (ih hbelow))

end

section

variable {part : Text} {before after : Toml}

theorem keeps_addEntry {dotted : Bool} {value : Toml}
    (h : addEntry dotted part value before = some after) :
    Keeps before after ∧ ∀ inner, Holds value inner → Holds after (part :: inner) := by
  cases before with
  | table origin entries =>
    rw [addEntry] at h
    split_ifs at h with _ hsome
    cases h
    refine ⟨keeps_put ?_, fun inner hinner => holds_put hinner⟩
    intro old hold
    rw [hold] at hsome
    exact absurd rfl hsome
  | _ => cases h

theorem keeps_openTable (h : openTable part before = some after) :
    Keeps before after ∧ Holds after [part] := by
  cases before with
  | table origin entries =>
    rw [openTable] at h
    split at h
    · rename_i hnone
      cases h
      refine ⟨keeps_put ?_, holds_put (.here _)⟩
      intro old hold
      rw [hnone] at hold
      cases hold
    · rename_i below himplied
      cases h
      refine ⟨keeps_put ?_, holds_put (.here _)⟩
      intro old hold
      rw [himplied] at hold
      cases hold
      exact keeps_table
    · cases h
  | _ => cases h

theorem keeps_openElement (h : openElement part before = some after) :
    Keeps before after ∧ Holds after [part] := by
  cases before with
  | table origin entries =>
    rw [openElement] at h
    split at h
    · rename_i hnone
      cases h
      refine ⟨keeps_put ?_, holds_put (.here _)⟩
      intro old hold
      rw [hnone] at hold
      cases hold
    · rename_i last earlier hlist
      cases h
      refine ⟨keeps_put ?_, holds_put (.here _)⟩
      intro old hold
      rw [hlist] at hold
      cases hold
      exact keeps_tables_cons
    · cases h
  | _ => cases h

theorem keeps_insert? {key : Key} {value : Toml} (h : insert? key value before = some after) :
    Keeps before after ∧ ∀ inner, Holds value inner → Holds after (key ++ inner) := by
  obtain ⟨part, hpart, h⟩ := Option.bind_eq_some_iff.mp h
  refine ⟨keeps_changeAt (fun _ _ hchange => (keeps_addEntry hchange).1) h, ?_⟩
  intro inner hinner
  have hkey : key ++ inner = key.dropLast ++ part :: inner := by
    rw [← List.dropLast_append_getLast? part hpart]
    simp
  rw [hkey]
  exact holds_changeAt (fun _ _ hchange => (keeps_addEntry hchange).2 inner hinner) h

end

def Statement.opened (above : Key) : Statement → Key
  | .header key => key
  | .element key => key
  | .pair _ _ => above

/-- A key that a statement spells. A pair stands below the header before it, and an inline table
spells the keys that it holds. -/
inductive Statement.Spells (above : Key) : Statement → Key → Prop where
  | header (key : Key) : Spells above (.header key) key
  | element (key : Key) : Spells above (.element key) key
  | pair {key inner : Key} {value : Toml} : Holds value inner →
      Spells above (.pair key value) (above ++ (key ++ inner))

def Spells : Key → List Statement → Key → Prop
  | _, [], _ => False
  | above, statement :: rest, key =>
    statement.Spells above key ∨ Spells (statement.opened above) rest key

theorem openAt_eq_some {document next : Section} {key : Key} {change : Text → Toml → Option Toml}
    (h : document.openAt key change = some next) :
    ∃ part, key = key.dropLast ++ [part] ∧
      changeAt false (change part) key.dropLast document.root = some next.root ∧
      next.header = key := by
  obtain ⟨part, hpart, h⟩ := Option.bind_eq_some_iff.mp h
  obtain ⟨root, hroot, h⟩ := Option.bind_eq_some_iff.mp h
  cases h
  exact ⟨part, (List.dropLast_append_getLast? part hpart).symm, hroot, rfl⟩

theorem keeps_add {document next : Section} {statement : Statement}
    (h : document.add statement = some next) :
    Keeps document.root next.root ∧ next.header = statement.opened document.header ∧
      ∀ key, statement.Spells document.header key → Holds next.root key := by
  cases statement with
  | header key =>
    obtain ⟨part, hkey, hroot, hheader⟩ := openAt_eq_some h
    refine ⟨keeps_changeAt (fun _ _ hchange => (keeps_openTable hchange).1) hroot, hheader, ?_⟩
    rintro _ ⟨⟩
    rw [hkey]
    exact holds_changeAt (fun _ _ hchange => (keeps_openTable hchange).2) hroot
  | element key =>
    obtain ⟨part, hkey, hroot, hheader⟩ := openAt_eq_some h
    refine ⟨keeps_changeAt (fun _ _ hchange => (keeps_openElement hchange).1) hroot, hheader, ?_⟩
    rintro _ ⟨⟩
    rw [hkey]
    exact holds_changeAt (fun _ _ hchange => (keeps_openElement hchange).2) hroot
  | pair key value =>
    obtain ⟨root, hroot, h⟩ := Option.bind_eq_some_iff.mp h
    cases h
    refine ⟨keeps_changeAt (fun _ _ hchange => (keeps_insert? hchange).1) hroot, rfl, ?_⟩
    rintro _ ⟨⟩
    rename_i inner hinner
    exact holds_changeAt (fun _ _ hchange => (keeps_insert? hchange).2 inner hinner) hroot

theorem keeps_foldlM {document final : Section} {statements : List Statement}
    (h : statements.foldlM Section.add document = some final) :
    Keeps document.root final.root ∧
      ∀ key, Spells document.header statements key → Holds final.root key := by
  induction statements generalizing document with
  | nil =>
    cases h
    exact ⟨.refl _, fun _ hkey => hkey.elim⟩
  | cons statement rest ih =>
    rw [List.foldlM_cons] at h
    obtain ⟨next, hnext, h⟩ := Option.bind_eq_some_iff.mp h
    obtain ⟨hstep, hheader, hspelled⟩ := keeps_add hnext
    obtain ⟨hrun, hlater⟩ := ih h
    refine ⟨hstep.trans hrun, ?_⟩
    intro key hkey
    rcases hkey with hkey | hkey
    · exact hrun key (hspelled key hkey)
    · exact hlater key (hheader ▸ hkey)

def statementsOf? (t : Text) : Option (List Statement) :=
  (scan t).bind statements

theorem holds_of_ofText? {t : Text} {document : Toml} (h : ofText? t = some document) :
    ∃ spelled, statementsOf? t = some spelled ∧
      ∀ key, Spells [] spelled key → Holds document key := by
  obtain ⟨tokens, htokens, h⟩ := Option.bind_eq_some_iff.mp h
  obtain ⟨spelled, hspelled, h⟩ := Option.bind_eq_some_iff.mp h
  obtain ⟨final, hfinal, h⟩ := Option.bind_eq_some_iff.mp h
  cases h
  refine ⟨spelled, ?_, (keeps_foldlM hfinal).2⟩
  rw [statementsOf?, htokens]
  exact hspelled

end ContractProxy.Toml
