import ContractProxy.Event.Log
import ContractProxy.Proofs.Event.Json
import Mathlib.Data.List.Basic

/-!
What a log has written. Main statements: it is the text of the wanted events as far as the writer's
capacity goes, and every line of it that has an end is read back as its event.
-/

set_option autoImplicit false

namespace ContractProxy

namespace Level

/-- The order of severities: information, warnings, errors. -/
inductive AtLeast : Level → Level → Prop where
  | same (level : Level) : AtLeast level level
  | warn : AtLeast .warn .info
  | error (minimum : Level) : AtLeast .error minimum

theorem reaches_iff {level minimum : Level} :
    level.reaches minimum = true ↔ level.AtLeast minimum := by
  constructor
  · intro h
    cases level with
    | info =>
      cases minimum with
      | info => exact .same .info
      | warn | error => cases h
    | warn =>
      cases minimum with
      | info => exact .warn
      | warn => exact .same .warn
      | error => cases h
    | error => exact .error minimum
  · intro h
    cases h with
    | same => exact decide_eq_true (Nat.le_refl _)
    | warn => rfl
    | error => cases minimum <;> rfl

instance : DecidableRel AtLeast := fun _ _ => decidable_of_iff _ reaches_iff

end Level

def limited : Option Nat → Bytes → Bytes
  | some capacity, bytes => bytes.take capacity
  | none, bytes => bytes

theorem limited_prefix (capacity : Option Nat) (bytes : Bytes) :
    limited capacity bytes <+: bytes := by
  cases capacity with
  | none => exact List.prefix_refl bytes
  | some n => exact List.take_prefix n bytes

namespace Writer

section

variable {writer : Writer} {first : Bytes}

theorem room_le (writer : Writer) (wanted : Nat) : writer.room wanted ≤ wanted := by
  unfold room
  split <;> omega

theorem write_of_room (h : writer.room first.length = first.length) :
    writer.write first = (true, { writer with stored := writer.stored ++ first }) := by
  simp [write, h]

theorem write_of_ne (h : writer.room first.length ≠ first.length) :
    writer.write first = (false,
      { writer with stored := writer.stored ++ first.take (writer.room first.length) }) := by
  simp [write, h]

theorem room_of_room (h : writer.room first.length = first.length) (wanted : Nat) :
    writer.room (first.length + wanted) =
      first.length + { writer with stored := writer.stored ++ first }.room wanted := by
  unfold room at h ⊢
  cases hc : writer.capacity with
  | none => rfl
  | some n =>
    simp only [hc, List.length_append] at h ⊢
    omega

theorem room_of_ne (h : writer.room first.length ≠ first.length) (wanted : Nat) :
    writer.room (first.length + wanted) = writer.room first.length := by
  unfold room at h ⊢
  cases hc : writer.capacity with
  | none => simp [hc] at h
  | some n =>
    simp only [hc] at h ⊢
    omega

theorem write_append (writer : Writer) (first second : Bytes) :
    writer.write (first ++ second) =
      let (stored, next) := writer.write first
      if stored then next.write second else (false, next) := by
  by_cases h : writer.room first.length = first.length
  · rw [write_of_room h]
    simp [write, room_of_room h, List.take_length_add_append]
  · -- The whole gets no further than the first piece, so what is stored is the same.
    have hle := writer.room_le first.length
    rw [write_of_ne h]
    simp [write, room_of_ne h, List.take_append_of_le_length hle]
    omega

end

def writeEach (writer : Writer) : List Bytes → Bool × Writer
  | [] => (true, writer)
  | piece :: rest =>
    let (stored, next) := writer.write piece
    if stored then next.writeEach rest else (false, next)

theorem writeEach_eq (writer : Writer) (pieces : List Bytes) :
    writer.writeEach pieces = writer.write pieces.flatten := by
  induction pieces generalizing writer with
  | nil => simp [writeEach, write, Nat.le_zero.mp (writer.room_le 0)]
  | cons piece rest ih => simp only [writeEach, ih, List.flatten_cons, write_append]

def given (capacity : Option Nat) (bytes : Bytes) : Writer :=
  ⟨capacity, false, limited capacity bytes⟩

/-- A writer that once lost bytes is full, so nothing is ever stored behind a gap. -/
theorem write_given (capacity : Option Nat) (before bytes : Bytes) :
    ((given capacity before).write bytes).2 = given capacity (before ++ bytes) := by
  cases capacity with
  | none => simp [given, write, room, limited]
  | some n =>
    simp [given, write, room, limited, List.take_append]
    omega

end Writer

/-- The lines that have an end, without it. -/
def completeLines (bytes : Bytes) : List Bytes :=
  (bytes.splitOn 10).dropLast

theorem splitOn_of_not_mem {bytes : Bytes} (h : 10 ∉ bytes) : bytes.splitOn 10 = [bytes] := by
  rw [List.splitOn_eq_splitOnP, List.splitOnP_eq_singleton]
  exact fun b hb => beq_false_of_ne (ne_of_mem_of_not_mem hb h)

theorem completeLines_of_not_mem {bytes : Bytes} (h : 10 ∉ bytes) : completeLines bytes = [] := by
  rw [completeLines, splitOn_of_not_mem h, List.dropLast_singleton]

theorem completeLines_append_cons {line : Bytes} (h : 10 ∉ line) (rest : Bytes) :
    completeLines (line ++ 10 :: rest) = line :: completeLines rest := by
  have hpieces : (line ++ 10 :: rest).splitOn 10 = line :: rest.splitOn 10 := by
    have happend := List.splitOnP_append_cons (p := (· == 10)) line rest (beq_self_eq_true 10)
    simpa only [← List.splitOn_eq_splitOnP, splitOn_of_not_mem h, List.singleton_append]
      using happend
  have hne : rest.splitOn 10 ≠ [] := List.splitOn_ne_nil 10 rest
  rw [completeLines, hpieces, List.dropLast_cons_of_ne_nil hne]
  rfl

example : completeLines [97, 10, 10, 98] = [[97], []] := by decide

theorem completeLines_eq_take {output : Bytes} {lines : List Bytes}
    (h : output <+: lines.flatMap (· ++ [10])) (hlines : ∀ line ∈ lines, 10 ∉ line) :
    completeLines output = lines.take (output.count 10) := by
  induction lines generalizing output with
  | nil =>
    obtain rfl := List.prefix_nil.mp h
    rfl
  | cons line rest ih =>
    rw [List.forall_mem_cons] at hlines
    rw [List.flatMap_cons] at h
    -- Either the first line is out together with its ending, or the output stops before that.
    by_cases hfirst : line ++ [10] <+: output
    · obtain ⟨more, rfl⟩ := hfirst
      have hmore := (List.prefix_append_right_inj (line ++ [10])).mp h
      have hcount : (line ++ [10] ++ more).count 10 = more.count 10 + 1 := by
        simp [List.count_eq_zero_of_not_mem hlines.1, Nat.add_comm]
      rw [hcount, List.take_succ_cons, ← ih hmore hlines.2, List.append_assoc,
        List.singleton_append, completeLines_append_cons hlines.1]
    · have hbefore : output <+: line ++ [10] :=
        (List.prefix_or_prefix_of_prefix h (List.prefix_append ..)).resolve_right hfirst
      rcases List.prefix_concat_iff.mp hbefore with rfl | hpart
      · exact absurd (List.prefix_refl _) hfirst
      · have hmem : 10 ∉ output := fun hmem => hlines.1 (hpart.subset hmem)
        rw [completeLines_of_not_mem hmem, List.count_eq_zero_of_not_mem hmem, List.take_zero]

namespace Event

theorem utf8_line (event : Event) : Text.utf8 event.line = Text.utf8 event.text ++ [10] := by
  rw [line, Text.utf8_append]
  rfl

theorem not_mem_utf8_text (event : Event) : 10 ∉ Text.utf8 event.text :=
  fun hmem => absurd (event.controlFree_text.le_of_mem_utf8 hmem) (by decide)

end Event

namespace Log

def given (minimum : Level) (capacity : Option Nat) (bytes : Bytes) : Log :=
  ⟨minimum, .given capacity bytes, false⟩

def wanted (minimum : Level) (events : List Event) : Bytes :=
  (events.filter (·.level.AtLeast minimum)).flatMap fun event => Text.utf8 event.line

theorem wanted_cons (minimum : Level) (event : Event) (rest : List Event) :
    wanted minimum (event :: rest) =
      (if event.level.AtLeast minimum then Text.utf8 event.line else []) ++
        wanted minimum rest := by
  by_cases h : event.level.AtLeast minimum <;> simp [wanted, h]

theorem record_of_atLeast {log : Log} {event : Event} (h : event.level.AtLeast log.minimum)
    (hpoisoned : log.poisoned = false) (hpanics : log.writer.panics = false) :
    log.record event =
      (.quiet, { log with writer := (log.writer.write (Text.utf8 event.line)).2 }) := by
  rw [Event.line, Text.utf8_append, Writer.write_append]
  rcases hfirst : log.writer.write (Text.utf8 event.text) with ⟨_ | _, next⟩ <;>
    simp [record, Level.reaches_iff.mpr h, hpoisoned, hpanics, hfirst]

theorem record_given (minimum : Level) (capacity : Option Nat) (before : Bytes) (event : Event) :
    (given minimum capacity before).record event =
      (.quiet, given minimum capacity
        (before ++ if event.level.AtLeast minimum then Text.utf8 event.line else [])) := by
  by_cases h : event.level.AtLeast minimum
  · have hwritten := Writer.write_given capacity before (Text.utf8 event.line)
    rw [record_of_atLeast h rfl rfl]
    simp [given, h, hwritten]
  · have hquiet : event.level.reaches minimum = false :=
      Bool.eq_false_iff.mpr fun hreaches => h (Level.reaches_iff.mp hreaches)
    simp [record, given, h, hquiet]

theorem recordAll_given (minimum : Level) (capacity : Option Nat) (before : Bytes)
    (events : List Event) :
    (given minimum capacity before).recordAll events =
      given minimum capacity (before ++ wanted minimum events) := by
  induction events generalizing before with
  | nil => simp [recordAll, wanted]
  | cons event rest ih =>
    rw [recordAll, List.foldl_cons, record_given, ← recordAll, ih, wanted_cons, List.append_assoc]

theorem record_pieces {log : Log} {event : Event} {pieces : List Bytes}
    (h : event.level.AtLeast log.minimum) (hpoisoned : log.poisoned = false)
    (hpanics : log.writer.panics = false) (hpieces : pieces.flatten = Text.utf8 event.text) :
    log.record event =
      (.quiet, { log with writer := (log.writer.writeEach (pieces ++ [[10]])).2 }) := by
  rw [record_of_atLeast h hpoisoned hpanics, Writer.writeEach_eq, List.flatten_append, hpieces,
    Event.utf8_line]
  rfl

/-- The output of a log is what was wanted, in the order of arrival, cut off where the capacity
ends: in whatever pieces it is written, nothing is left out before that and nothing comes behind it.
The text of an event has no control characters, so each line that has an end is one object, from
which its event is read back. -/
theorem recordAll_written (minimum : Level) (capacity : Option Nat) (events : List Event) :
    let log : Log := ⟨minimum, ⟨capacity, false, []⟩, false⟩
    let kept := events.filter (·.level.AtLeast minimum)
    let written := (log.recordAll events).writer.stored
    written = limited capacity (kept.flatMap fun event => Text.utf8 event.text ++ [10]) ∧
    (∀ (now : Log) (event : Event) (pieces : List Bytes),
      event.level.AtLeast now.minimum → now.poisoned = false → now.writer.panics = false →
      pieces.flatten = Text.utf8 event.text →
        now.record event =
          (.quiet, { now with writer := (now.writer.writeEach (pieces ++ [[10]])).2 })) ∧
    (∀ event : Event, ∀ b ∈ Text.utf8 event.text, 32 ≤ b) ∧
    completeLines written =
      (kept.map fun event => Text.utf8 event.text).take (written.count 10) ∧
    ∀ (i : Nat) (line : Bytes), (completeLines written)[i]? = some line →
      ∃ event, kept[i]? = some event ∧ Json.read line = ⟨event.toJson, true⟩ ∧
        Json.decode Event.reader line = .ok event := by
  intro log kept written
  have hstart : log = given minimum capacity [] := by
    cases capacity <;> simp [log, given, Writer.given, limited]
  have hwritten : written =
      limited capacity (kept.flatMap fun event => Text.utf8 event.text ++ [10]) := by
    simp only [written, hstart, recordAll_given, List.nil_append, ← Event.utf8_line]
    rfl
  have hlines : completeLines written =
      (kept.map fun event => Text.utf8 event.text).take (written.count 10) := by
    refine completeLines_eq_take ?_ ?_
    · rw [hwritten, List.flatMap_map]
      exact limited_prefix capacity _
    · simpa using fun event _ => event.not_mem_utf8_text
  refine ⟨hwritten, fun _ _ _ => record_pieces, ?_, hlines, ?_⟩
  · exact fun event b hb => event.controlFree_text.le_of_mem_utf8 hb
  · intro i line hline
    have hkept : (kept.map fun event => Text.utf8 event.text)[i]? = some line := by
      rw [hlines, List.getElem?_take] at hline
      exact (Option.ite_none_right_eq_some.mp hline).2
    rw [List.getElem?_map] at hkept
    obtain ⟨event, hevent, rfl⟩ := Option.map_eq_some_iff.mp hkept
    exact ⟨event, hevent, event.read_text, event.decode_text⟩

end Log

end ContractProxy
