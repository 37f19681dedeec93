import ContractProxy.Json.Tree

/-!
Reading typed values from JSON. The first fault in the order of the text decides: a value of the
wrong type counts before a text that breaks off behind it.
-/

set_option autoImplicit false

namespace ContractProxy.Json

inductive Fault where
  | malformed
  | invalidType
  | invalidValue
  | invalidLength
  | missingField (name : Text)
  | duplicateField (name : Text)
  | unknownVariant (name : Text) (known : List Text)
  | noVariant (type : Text)
  deriving DecidableEq, Repr

def tickedList (names : List Text) : Text :=
  List.intercalate ", " (names.map fun name => "\x60" ++ name ++ "\x60")

def Fault.message : Fault → Text
  | .malformed => "syntax"
  | .invalidType => "invalid type"
  | .invalidValue => "invalid value"
  | .invalidLength => "invalid length"
  | .missingField name => "missing field \x60" ++ name ++ "\x60"
  | .duplicateField name => "duplicate field \x60" ++ name ++ "\x60"
  | .unknownVariant name known =>
    "unknown variant \x60" ++ name ++ "\x60, expected one of " ++ tickedList known
  | .noVariant type => "data did not match any variant of untagged enum " ++ type

abbrev Reader (α : Type) := Json → Except Fault α

/-- Containers that may be open at once, outside of values that are passed over. -/
def nestingLimit : Nat := 127

/-- The fault of a value that has another type than the wanted one. A scalar is read before its
type is looked at; a container is refused at its bracket. -/
def mismatch : Json → Fault
  | .string none => .malformed
  | .number spelling => if (Number.ofSpelling? spelling).isSome then .invalidType else .malformed
  | .absent => .malformed
  | _ => .invalidType

def asText : Reader Text
  | .string (some t) => .ok t
  | other => .error other.mismatch

def asBool : Reader Bool
  | .bool value => .ok value
  | other => .error other.mismatch

/-- An unsigned number of 32 bits. An integer beyond 64 bits is a real. -/
def asWord : Reader UInt32
  | .number spelling =>
    match Number.ofSpelling? spelling with
    | some (.natural value) =>
      if value < UInt32.size then .ok (.ofNat value) else .error .invalidValue
    | some (.negative _) => .error .invalidValue
    | some .real => .error .invalidType
    | none => .error .malformed
  | other => .error other.mismatch

/-- An array whose items all read; it has to be whole once they did. -/
def asList {α : Type} (item : Reader α) : Reader (List α)
  | .array items whole => do
    let values ← items.mapM item
    if whole then .ok values else .error .malformed
  | other => .error other.mismatch

abbrev MemberReader (σ : Type) := σ → Text → Option (Json → Except Fault σ)

/-- Reads the members of an object into a record, in their order. Unknown members are passed over,
which asks only that they do not break off. -/
def readMembers {σ : Type} (member : MemberReader σ) (whole : Bool) :
    σ → List (Json × Json) → Except Fault σ
  | record, [] => if whole then .ok record else .error .malformed
  | record, (.string (some name), value) :: rest =>
    match member record name with
    | none => if value.isWhole then readMembers member whole record rest else .error .malformed
    | some read => do
      let record ← read value
      readMembers member whole record rest
  | _, _ :: _ => .error .malformed

/-- A member that may be given once. A second one is refused before its value is read. -/
def once {α σ : Type} (name : Text) (slot : Option α) (item : Reader α) (store : α → σ)
    (value : Json) : Except Fault σ :=
  if slot.isSome then .error (.duplicateField name) else (item value).map store

def required {α : Type} (name : Text) : Option α → Except Fault α
  | some value => .ok value
  | none => .error (.missingField name)

structure Positions where
  items : List Json
  whole : Bool

def Positions.next {α : Type} (item : Reader α) (p : Positions) :
    Except Fault (Option α × Positions) :=
  match p.items with
  | [] => if p.whole then .ok (none, p) else .error .malformed
  | first :: rest => do
    let value ← item first
    .ok (some value, ⟨rest, p.whole⟩)

def Positions.needed {α : Type} (item : Reader α) (p : Positions) :
    Except Fault (α × Positions) := do
  match ← p.next item with
  | (some value, p) => .ok (value, p)
  | (none, _) => .error .invalidLength

def Positions.defaulted {α : Type} (item : Reader α) (default : α) (p : Positions) :
    Except Fault (α × Positions) := do
  let (value, p) ← p.next item
  .ok (value.getD default, p)

def Positions.finish (p : Positions) (fault : Fault) : Except Fault Unit :=
  if p.items.isEmpty && p.whole then .ok () else .error (if p.whole then fault else .malformed)

def asVariant {α : Type} (known : List (Text × α)) : Reader α := fun value => do
  let name ← asText value
  match known.lookup name with
  | some variant => .ok variant
  | none => .error (.unknownVariant name (known.map Prod.fst))

/-- One of a list of names, as a string or as an object with that only key and a null value. -/
def asPlainVariant {α : Type} (known : List (Text × α)) : Reader α
  | .string content => asVariant known (.string content)
  | .object ((key, value) :: rest) whole => do
    let variant ← asVariant known key
    match value with
    | .null => if rest.isEmpty && whole then .ok variant else .error .malformed
    | other => .error other.mismatch
  | _ => .error .malformed

def decode {α : Type} (item : Reader α) (bytes : Bytes) : Except Fault α := do
  let document := read bytes
  let value ← item document.value
  if document.clean then .ok value else .error .malformed

end ContractProxy.Json
