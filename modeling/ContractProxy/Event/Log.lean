import ContractProxy.Event.Basic

/-!
A log writes each event from a minimum level on as one line. What the writer cannot take is lost
without a report; a writer that panics ends the log.
-/

set_option autoImplicit false

namespace ContractProxy

/-- A writer that stores a limited number of bytes, or any number, and then fails. -/
structure Writer where
  capacity : Option Nat
  panics : Bool
  stored : Bytes
  deriving DecidableEq, Repr

namespace Writer

def room (writer : Writer) (wanted : Nat) : Nat :=
  match writer.capacity with
  | some capacity => min wanted (capacity - writer.stored.length)
  | none => wanted

def write (writer : Writer) (bytes : Bytes) : Bool × Writer :=
  let room := writer.room bytes.length
  (room == bytes.length, { writer with stored := writer.stored ++ bytes.take room })

end Writer

structure Log where
  minimum : Level
  writer : Writer
  poisoned : Bool
  deriving DecidableEq, Repr

namespace Log

inductive Outcome where
  | quiet | panicked
  deriving DecidableEq, Repr

/-- Writes the event's text, and its line ending once the text was stored. -/
def record (log : Log) (event : Event) : Outcome × Log :=
  if !event.level.reaches log.minimum || log.poisoned then (.quiet, log)
  else if log.writer.panics then (.panicked, { log with poisoned := true })
  else
    let (stored, writer) := log.writer.write (Text.utf8 event.text)
    let writer := if stored then (writer.write (Text.utf8 "\n")).2 else writer
    (.quiet, { log with writer := writer })

def recordAll (log : Log) (events : List Event) : Log :=
  events.foldl (fun log event => (log.record event).2) log

end Log

end ContractProxy
