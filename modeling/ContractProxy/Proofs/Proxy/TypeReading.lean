import ContractProxy.Proofs.Proxy.TypeText

/-!
Reading a type. A reader goes through a text character by character and holds where it stands in a
name, how many argument lists are open and what it has of the type at hand. What it does at a name
does not depend on the name, and it gets through a text, as far as names go, exactly if they are made
of identifiers.
-/

set_option autoImplicit false

namespace ContractProxy.CSharp

open ProxyOptions (separatesNames)
open Text (fields fields_nil fields_append_cons fields_of_forall)

inductive Spot where
  | blank
  | dot
  | inside
  deriving DecidableEq, Repr

def Spot.step (spot : Spot) (c : Char) : Option Spot :=
  if separatesNames c then if spot = .dot then none else some .blank
  else if c = '.' then if spot = .inside then some .dot else none
  else if spot = .inside then if continuesIdentifier c then some .inside else none
  else if startsIdentifier c then some .inside else none

/-- What a reader has of the type at hand: nothing, its name, or its name and its arguments. -/
inductive Phase where
  | expecting
  | named
  | closed
  deriving DecidableEq, Repr

/-- The number of open argument lists and the phase in the innermost one. -/
structure Nesting where
  depth : Nat
  phase : Phase
  deriving DecidableEq, Repr

def Nesting.name (nesting : Nesting) : Option Nesting :=
  if nesting.phase = .expecting then some ⟨nesting.depth, .named⟩ else none

def Nesting.separator (nesting : Nesting) : Char → Option Nesting
  | ' ' => some nesting
  | '<' => if nesting.phase = .named then some ⟨nesting.depth + 1, .expecting⟩ else none
  | ',' =>
    if nesting.phase ≠ .expecting ∧ 0 < nesting.depth then some ⟨nesting.depth, .expecting⟩
    else none
  | '>' =>
    if nesting.phase ≠ .expecting ∧ 0 < nesting.depth then some ⟨nesting.depth - 1, .closed⟩
    else none
  | _ => none

structure Reading where
  spot : Spot
  nesting : Nesting
  deriving DecidableEq, Repr

namespace Reading

def start : Reading := ⟨.blank, 0, .expecting⟩

def nestingAfter (reading : Reading) (c : Char) : Option Nesting :=
  if separatesNames c then reading.nesting.separator c
  else if reading.spot = .blank then reading.nesting.name
  else some reading.nesting

def step (reading : Reading) (c : Char) : Option Reading := do
  let spot ← reading.spot.step c
  let nesting ← reading.nestingAfter c
  some ⟨spot, nesting⟩

/-- What a whole dotted name does to a reading: it begins a name or goes on with one. -/
def enter (reading : Reading) : Option Reading :=
  if reading.spot = .blank then reading.nesting.name.map (⟨.inside, ·⟩)
  else some ⟨.inside, reading.nesting⟩

def isWhole (reading : Reading) : Bool :=
  reading.spot ≠ .dot ∧ reading.nesting.depth = 0 ∧ reading.nesting.phase ≠ .expecting

end Reading

namespace Spot

variable {spot next : Spot} {c : Char} {t : Text}

theorem step_of_starts (h : startsIdentifier c = true) (spot : Spot) :
    spot.step c = some .inside := by
  have hcont := continuesIdentifier_of_starts h
  simp [step, separatesNames_eq_false hcont, ne_dot_of_continues hcont, h, hcont]

theorem step_of_continues (h : continuesIdentifier c = true) : inside.step c = some .inside := by
  simp [step, separatesNames_eq_false h, ne_dot_of_continues h, h]

theorem step_separator (hc : separatesNames c = true) :
    spot.step c = some next ↔ spot ≠ .dot ∧ next = .blank := by
  cases spot <;> simp [step, hc, eq_comm]

theorem continues_of_foldlM (hplain : ∀ c ∈ t, separatesNames c = false ∧ c ≠ '.')
    (h : t.foldlM step .inside = some next) :
    next = .inside ∧ ∀ c ∈ t, continuesIdentifier c = true := by
  induction t with
  | nil =>
    cases h
    simp
  | cons c rest ih =>
    obtain ⟨⟨hc, hdot⟩, hrest⟩ := List.forall_mem_cons.mp hplain
    rw [List.foldlM_cons] at h
    obtain ⟨after, hstep, h⟩ := Option.bind_eq_some_iff.mp h
    by_cases hcont : continuesIdentifier c = true
    · rw [step_of_continues hcont] at hstep
      cases hstep
      obtain ⟨hnext, hall⟩ := ih hrest h
      exact ⟨hnext, List.forall_mem_cons.mpr ⟨hcont, hall⟩⟩
    · simp [step, hc, hdot, hcont] at hstep

theorem identifier_of_foldlM (hplain : ∀ c ∈ t, separatesNames c = false ∧ c ≠ '.')
    (hspot : spot ≠ .inside) (h : t.foldlM step spot = some next) :
    t = [] ∧ next = spot ∨ isIdentifier t = true ∧ next = .inside := by
  cases t with
  | nil =>
    cases h
    exact .inl ⟨rfl, rfl⟩
  | cons c rest =>
    obtain ⟨⟨hc, hdot⟩, hrest⟩ := List.forall_mem_cons.mp hplain
    rw [List.foldlM_cons] at h
    obtain ⟨after, hstep, h⟩ := Option.bind_eq_some_iff.mp h
    by_cases hstarts : startsIdentifier c = true
    · rw [step_of_starts hstarts] at hstep
      cases hstep
      obtain ⟨hnext, hall⟩ := continues_of_foldlM hrest h
      right
      exact ⟨by simpa [isIdentifier, hstarts] using hall, hnext⟩
    · simp [step, hc, hdot, hspot, hstarts] at hstep

end Spot

theorem Spot.dotted_of_foldlM {t : Text} {spot next : Spot}
    (hplain : ∀ c ∈ t, separatesNames c = false) (hspot : spot ≠ .inside)
    (h : t.foldlM step spot = some next) (hnext : next ≠ .dot) :
    t = [] ∧ next = spot ∨ Dotted t ∧ next = .inside := by
  induction t using Text.cutInduction (· == '.') generalizing spot with
  | last s hdot =>
    have hsegment : ∀ c ∈ s, separatesNames c = false ∧ c ≠ '.' :=
      fun c hc => ⟨hplain c hc, by simpa using hdot c hc⟩
    rw [dotted_of_forall hdot]
    exact identifier_of_foldlM hsegment hspot h
  | cut s c rest hdot hc ih =>
    obtain rfl : c = '.' := by simpa using hc
    obtain ⟨hs, hrest⟩ := List.forall_mem_append.mp hplain
    have hsegment : ∀ c ∈ s, separatesNames c = false ∧ c ≠ '.' :=
      fun c hc => ⟨hs c hc, by simpa using hdot c hc⟩
    rw [List.foldlM_append] at h
    obtain ⟨middle, hfront, h⟩ := Option.bind_eq_some_iff.mp h
    rw [List.foldlM_cons] at h
    obtain ⟨after, hstep, h⟩ := Option.bind_eq_some_iff.mp h
    rcases identifier_of_foldlM hsegment hspot hfront with ⟨rfl, rfl⟩ | ⟨hidentifier, rfl⟩
    · have hnone : middle.step '.' = none := by
        cases middle
        · rfl
        · rfl
        · exact absurd rfl hspot
      rw [hnone] at hstep
      cases hstep
    · cases hstep
      rcases ih (List.forall_mem_cons.mp hrest).2 (by simp) h with ⟨_, rfl⟩ | ⟨hdotted, rfl⟩
      · exact absurd rfl hnext
      · exact .inr ⟨(dotted_append_dot hdot).mpr ⟨hidentifier, hdotted⟩, rfl⟩

namespace Reading

variable {reading next : Reading} {c : Char} {t : Text}

theorem step_eq_some_iff :
    reading.step c = some next ↔
      reading.spot.step c = some next.spot ∧ reading.nestingAfter c = some next.nesting := by
  obtain ⟨spot, nesting⟩ := next
  simp only [step, Option.bind_eq_bind, Option.bind_eq_some_iff, Option.some.injEq, mk.injEq]
  constructor
  · intro h
    obtain ⟨_, hspot, _, hnesting, rfl, rfl⟩ := h
    exact ⟨hspot, hnesting⟩
  · intro h
    exact ⟨spot, h.1, nesting, h.2, rfl, rfl⟩

theorem step_separator (hc : separatesNames c = true) :
    reading.step c = some next ↔ reading.spot ≠ .dot ∧ next.spot = .blank ∧
      reading.nesting.separator c = some next.nesting := by
  rw [step_eq_some_iff, Spot.step_separator hc, nestingAfter, if_pos hc, and_assoc]

theorem spot_of_foldlM (h : t.foldlM step reading = some next) :
    t.foldlM Spot.step reading.spot = some next.spot := by
  induction t generalizing reading with
  | nil =>
    cases h
    rfl
  | cons c rest ih =>
    rw [List.foldlM_cons] at h ⊢
    obtain ⟨after, hstep, h⟩ := Option.bind_eq_some_iff.mp h
    exact Option.bind_eq_some_iff.mpr ⟨after.spot, (step_eq_some_iff.mp hstep).1, ih h⟩

theorem enter_eq_some_iff :
    reading.enter = some next ↔ next.spot = .inside ∧
      (if reading.spot = .blank then reading.nesting.name else some reading.nesting) =
        some next.nesting := by
  obtain ⟨spot, nesting⟩ := next
  unfold enter
  split_ifs
  · simp [Option.map_eq_some_iff, and_comm, eq_comm]
  · simp [eq_comm]

theorem step_of_starts (h : startsIdentifier c = true) (reading : Reading) :
    reading.step c = reading.enter := by
  have hplain := separatesNames_eq_false (continuesIdentifier_of_starts h)
  apply Option.ext
  intro next
  rw [step_eq_some_iff, enter_eq_some_iff, Spot.step_of_starts h, nestingAfter, hplain,
    Option.some_inj, eq_comm]
  rfl

theorem step_of_continues (h : continuesIdentifier c = true) (nesting : Nesting) :
    (⟨.inside, nesting⟩ : Reading).step c = some ⟨.inside, nesting⟩ :=
  step_eq_some_iff.mpr ⟨Spot.step_of_continues h, by simp [nestingAfter, separatesNames_eq_false h]⟩

theorem foldlM_continuing (h : ∀ c ∈ t, continuesIdentifier c = true) (nesting : Nesting) :
    t.foldlM step ⟨.inside, nesting⟩ = some ⟨.inside, nesting⟩ := by
  induction t with
  | nil => rfl
  | cons c rest ih =>
    obtain ⟨hc, hrest⟩ := List.forall_mem_cons.mp h
    rw [List.foldlM_cons, step_of_continues hc]
    exact ih hrest

theorem foldlM_identifier (h : isIdentifier t = true) (reading : Reading) :
    t.foldlM step reading = reading.enter := by
  cases t with
  | nil => cases h
  | cons c rest =>
    have hparts : startsIdentifier c = true ∧ ∀ d ∈ rest, continuesIdentifier d = true := by
      simpa [isIdentifier] using h
    rw [List.foldlM_cons, step_of_starts hparts.1]
    cases henter : reading.enter with
    | none => rfl
    | some after =>
      obtain ⟨spot, nesting⟩ := after
      obtain rfl : spot = .inside := (enter_eq_some_iff.mp henter).1
      exact foldlM_continuing hparts.2 nesting

theorem foldlM_dotted (h : Dotted t) (reading : Reading) :
    t.foldlM step reading = reading.enter := by
  induction t using Text.cutInduction (· == '.') generalizing reading with
  | last s hdot => exact foldlM_identifier ((dotted_of_forall hdot).mp h) reading
  | cut s c rest hdot hc ih =>
    obtain rfl : c = '.' := by simpa using hc
    obtain ⟨hidentifier, hrest⟩ := (dotted_append_dot hdot).mp h
    rw [List.foldlM_append, foldlM_identifier hidentifier]
    cases henter : reading.enter with
    | none => rfl
    | some after =>
      obtain ⟨spot, nesting⟩ := after
      obtain rfl : spot = .inside := (enter_eq_some_iff.mp henter).1
      exact ih hrest ⟨.dot, nesting⟩

theorem spot_of_dotted (h : Dotted t) (spot : Spot) :
    t.foldlM Spot.step spot = some .inside := by
  have hrun := foldlM_dotted h ⟨spot, 0, .expecting⟩
  cases spot <;> exact spot_of_foldlM hrun

end Reading

namespace Spot

/-- A reader of names passes over a text without stopping behind a dot. -/
def Passes (t : Text) : Prop :=
  ∃ spot, t.foldlM step .blank = some spot ∧ spot ≠ .dot

theorem passes_of_plain {t : Text} (hplain : ∀ c ∈ t, separatesNames c = false) :
    Passes t ↔ ∀ name ∈ fields separatesNames t, Dotted name := by
  by_cases hnil : t = []
  · subst hnil
    exact iff_of_true ⟨.blank, rfl, by simp⟩ (by simp [fields_nil])
  · rw [fields_of_forall hnil hplain, List.forall_mem_singleton]
    constructor
    · intro h
      obtain ⟨spot, hrun, hspot⟩ := h
      rcases dotted_of_foldlM hplain (by simp) hrun hspot with ⟨hempty, _⟩ | ⟨hdotted, _⟩
      · exact absurd hempty hnil
      · exact hdotted
    · intro h
      exact ⟨.inside, Reading.spot_of_dotted h .blank, by simp⟩

theorem passes_append_cons {s t : Text} {c : Char} (hc : separatesNames c = true) :
    Passes (s ++ c :: t) ↔ Passes s ∧ Passes t := by
  have hrun : ∀ spot, (s ++ c :: t).foldlM step .blank = some spot ↔
      ∃ middle, s.foldlM step .blank = some middle ∧ middle ≠ .dot ∧
        t.foldlM step .blank = some spot := by
    intro spot
    simp only [List.foldlM_append, List.foldlM_cons, Option.bind_eq_bind, Option.bind_eq_some_iff,
      step_separator hc]
    constructor
    · intro h
      obtain ⟨middle, hs, _, ⟨hmiddle, rfl⟩, ht⟩ := h
      exact ⟨middle, hs, hmiddle, ht⟩
    · intro h
      obtain ⟨middle, hs, hmiddle, ht⟩ := h
      exact ⟨middle, hs, .blank, ⟨hmiddle, rfl⟩, ht⟩
  simp only [Passes, hrun]
  constructor
  · intro h
    obtain ⟨spot, ⟨middle, hs, hmiddle, ht⟩, hspot⟩ := h
    exact ⟨⟨middle, hs, hmiddle⟩, spot, ht, hspot⟩
  · intro h
    obtain ⟨⟨middle, hs, hmiddle⟩, spot, ht, hspot⟩ := h
    exact ⟨spot, ⟨middle, hs, hmiddle, ht⟩, hspot⟩

theorem passes_iff {t : Text} : Passes t ↔ ∀ name ∈ fields separatesNames t, Dotted name := by
  induction t using Text.cutInduction separatesNames with
  | last s hplain => exact passes_of_plain hplain
  | cut s c rest hplain hc ih =>
    rw [passes_append_cons hc, passes_of_plain hplain, ih, fields_append_cons hc,
      List.forall_mem_append]

end Spot

end ContractProxy.CSharp
