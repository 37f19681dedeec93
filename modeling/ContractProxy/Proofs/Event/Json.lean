import ContractProxy.Event.Basic
import ContractProxy.Json.Decoding
import ContractProxy.Proofs.Json.Printer
import ContractProxy.Proofs.Json.Tree

/-!
Events in JSON. The text of an event has no control characters, so it is one line, and a reader gets
the event back from it.
-/

set_option autoImplicit false

namespace ContractProxy

open Json (Reader)

def Level.reader : Reader Level :=
  Json.asVariant [("info", .info), ("warn", .warn), ("error", .error)]

theorem Level.reader_label (level : Level) : reader (Json.ofText level.label) = .ok level := by
  cases level <;> rfl

namespace EventKind

def reader : Reader EventKind :=
  Json.asVariant
    [("reactivating", .reactivating), ("no_candidates", .noCandidates),
     ("activating", .activating), ("activation_skipped", .activationSkipped),
     ("contract_generated", .contractGenerated), ("contract_failed", .contractFailed),
     ("drift_detected", .driftDetected), ("batch_completed", .batchCompleted)]

theorem reader_label (kind : EventKind) : reader (Json.ofText kind.label) = .ok kind := by
  cases kind <;> rfl

end EventKind

namespace Event

structure Fields where
  level : Option Level
  kind : Option EventKind
  contract : Option (Option Text)
  message : Option Text

def optionalText : Reader (Option Text)
  | .null => .ok none
  | value => (Json.asText value).map some

def member : Json.MemberReader Fields := fun given key =>
  if key == "level" then
    some (Json.once "level" given.level Level.reader ({ given with level := some · }))
  else if key == "kind" then
    some (Json.once "kind" given.kind EventKind.reader ({ given with kind := some · }))
  else if key == "contract" then
    some (Json.once "contract" given.contract optionalText ({ given with contract := some · }))
  else if key == "message" then
    some (Json.once "message" given.message Json.asText ({ given with message := some · }))
  else none

/-- An event is an object with all four members. -/
def reader : Reader Event
  | .object members whole => do
    let given ← Json.readMembers member whole ⟨none, none, none, none⟩ members
    let level ← Json.required "level" given.level
    let kind ← Json.required "kind" given.kind
    let contract ← Json.required "contract" given.contract
    let message ← Json.required "message" given.message
    .ok ⟨level, kind, contract, message⟩
  | other => .error other.mismatch

theorem optionalText_contract (contract : Option Text) :
    optionalText ((contract.map Json.ofText).getD .null) = .ok contract := by
  cases contract <;> rfl

theorem reader_toJson (event : Event) : reader event.toJson = .ok event := by
  have hlevel := Level.reader_label event.level
  have hkind := EventKind.reader_label event.kind
  have hcontract := optionalText_contract event.contract
  simp only [Json.ofText] at hlevel hkind
  simp [toJson, Json.ofMembers, Json.ofText, reader, Json.readMembers, member, Json.once,
    hlevel, hkind, hcontract, Json.asText, Except.map, bind, Except.bind, Json.required]

theorem printable_toJson (event : Event) : event.toJson.Printable := by
  refine Json.printable_ofMembers ?_
  cases event.contract <;> simp [Json.printable_ofText, Json.Printable]

theorem read_text (event : Event) : Json.read (Text.utf8 event.text) = ⟨event.toJson, true⟩ :=
  Json.read_render event.printable_toJson

theorem decode_text (event : Event) : Json.decode reader (Text.utf8 event.text) = .ok event := by
  simp [Json.decode, read_text, reader_toJson, bind, Except.bind]

theorem controlFree_text (event : Event) : Text.ControlFree event.text :=
  Json.controlFree_render _ event.printable_toJson

end Event

end ContractProxy
