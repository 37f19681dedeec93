import ContractProxy.Assembly.Basic
import ContractProxy.TypeRef.Json

/-!
The JSON form of assembly metadata. Records are objects, or arrays of their fields in order.
Members carry their kind in a tag; a member is buffered before its fields are read, so all of it
has to be JSON in full.
-/

set_option autoImplicit false

namespace ContractProxy

open Json (Reader Positions Fault)

namespace TypeKind

def variants : List (Text × TypeKind) :=
  [("interface", .interface), ("class", .reference), ("struct", .value), ("enum", .enumeration),
   ("delegate", .delegate)]

def reader : Reader TypeKind :=
  Json.asPlainVariant variants

def toJson (kind : TypeKind) : Json :=
  Json.ofText kind.label

end TypeKind

/-- A value inside a member opens no more containers than the member's own check allowed. -/
def bufferedType : Reader TypeRef :=
  TypeRef.reader Json.nestingLimit

namespace Parameter

structure Fields where
  name : Option Text
  type : Option TypeRef

def member : Json.MemberReader Fields := fun given key =>
  if key == "name" then
    some (Json.once "name" given.name Json.asText ({ given with name := some · }))
  else if key == "type" then
    some (Json.once "type" given.type bufferedType ({ given with type := some · }))
  else none

def reader : Reader Parameter
  | .object members whole => do
    let given ← Json.readMembers member whole ⟨none, none⟩ members
    let name ← Json.required "name" given.name
    let type ← Json.required "type" given.type
    .ok ⟨name, type⟩
  | .array items whole => do
    let (name, rest) ← Positions.needed Json.asText ⟨items, whole⟩
    let (type, rest) ← rest.needed bufferedType
    rest.finish .invalidLength
    .ok ⟨name, type⟩
  | other => .error other.mismatch

def toJson (parameter : Parameter) : Json :=
  Json.ofMembers [("name", Json.ofText parameter.name), ("type", parameter.type.toJson)]

end Parameter

namespace Member

inductive Kind where
  | method | property | event | field | constructor | nestedType
  deriving DecidableEq, Repr

def tag : Text := "kind"

def kinds : List (Text × Kind) :=
  [("method", .method), ("property", .property), ("event", .event), ("field", .field),
   ("constructor", .constructor), ("nested_type", .nestedType)]

structure Fields where
  name : Option Text
  parameters : Option (List Parameter)
  returns : Option (Option TypeRef)
  special : Option Bool
  type : Option TypeRef
  readable : Option Bool
  writable : Option Bool

def noFields : Fields := ⟨none, none, none, none, none, none, none⟩

def optionalType : Reader (Option TypeRef)
  | .null => .ok none
  | value => (bufferedType value).map some

def member (kind : Kind) : Json.MemberReader Fields := fun given key =>
  if key == "name" then
    some (Json.once "name" given.name Json.asText ({ given with name := some · }))
  else
    match kind with
    | .method =>
      if key == "parameters" then
        some (Json.once "parameters" given.parameters (Json.asList Parameter.reader)
          ({ given with parameters := some · }))
      else if key == "return_type" then
        some (Json.once "return_type" given.returns optionalType ({ given with returns := some · }))
      else if key == "special_name" then
        some (Json.once "special_name" given.special Json.asBool ({ given with special := some · }))
      else none
    | .property =>
      if key == "type" then
        some (Json.once "type" given.type bufferedType ({ given with type := some · }))
      else if key == "can_read" then
        some (Json.once "can_read" given.readable Json.asBool ({ given with readable := some · }))
      else if key == "can_write" then
        some (Json.once "can_write" given.writable Json.asBool ({ given with writable := some · }))
      else none
    | _ => none

def ofFields (kind : Kind) (given : Fields) : Except Fault Member := do
  let name ← Json.required "name" given.name
  match kind with
  | .method =>
    .ok (.method name (given.parameters.getD []) (given.returns.getD none)
      (given.special.getD false))
  | .property =>
    let type ← Json.required "type" given.type
    .ok (.property name type (given.readable.getD true) (given.writable.getD false))
  | .event => .ok (.event name)
  | .field => .ok (.field name)
  | .constructor => .ok (.constructor name)
  | .nestedType => .ok (.nestedType name)

def ofPositions (kind : Kind) (p : Positions) : Except Fault Member := do
  let (name, rest) ← p.needed Json.asText
  match kind with
  | .method =>
    let (parameters, rest) ← rest.defaulted (Json.asList Parameter.reader) []
    let (returns, rest) ← rest.defaulted optionalType none
    let (special, rest) ← rest.defaulted Json.asBool false
    rest.finish .invalidLength
    .ok (.method name parameters returns special)
  | .property =>
    let (type, rest) ← rest.needed bufferedType
    let (readable, rest) ← rest.defaulted Json.asBool true
    let (writable, rest) ← rest.defaulted Json.asBool false
    rest.finish .invalidLength
    .ok (.property name type readable writable)
  | .event => do rest.finish .invalidLength; .ok (.event name)
  | .field => do rest.finish .invalidLength; .ok (.field name)
  | .constructor => do rest.finish .invalidLength; .ok (.constructor name)
  | .nestedType => do rest.finish .invalidLength; .ok (.nestedType name)

/-- Buffers the members of an object in their order and picks out the tag. -/
def splitTag (depth : Nat) (whole : Bool) (kind : Option Kind) (kept : List (Json × Json)) :
    List (Json × Json) → Except Fault (Kind × List (Json × Json))
  | [] =>
    if whole then
      match kind with
      | some kind => .ok (kind, kept.reverse)
      | none => .error (.missingField tag)
    else .error .malformed
  | (.string (some key), value) :: rest =>
    if key == tag then
      if kind.isSome then .error (.duplicateField tag)
      else do
        let kind ← Json.asVariant kinds value
        splitTag depth whole (some kind) kept rest
    else if value.readable depth then
      splitTag depth whole kind ((.string (some key), value) :: kept) rest
    else .error .malformed
  | _ :: _ => .error .malformed

/-- Containers that are open around the value of a member's field: the document, its list of types,
a type, its list of members and the member. -/
def openAround : Nat := 5

def reader : Reader Member
  | .object members whole => do
    let (kind, fields) ← splitTag (Json.nestingLimit - openAround) whole none [] members
    let given ← Json.readMembers (member kind) true noFields fields
    ofFields kind given
  | .array [] whole => .error (if whole then .missingField tag else .malformed)
  | .array (first :: rest) whole => do
    let kind ← Json.asVariant kinds first
    if Json.readableItems (Json.nestingLimit - openAround) rest && whole then
      ofPositions kind ⟨rest, true⟩
    else .error .malformed
  | other => .error other.mismatch

def toJson : Member → Json
  | .method name parameters returns special =>
    Json.ofMembers [(tag, Json.ofText "method"), ("name", Json.ofText name),
      ("parameters", Json.ofList (parameters.map Parameter.toJson)),
      ("return_type", (returns.map TypeRef.toJson).getD .null), ("special_name", .bool special)]
  | .property name type readable writable =>
    Json.ofMembers [(tag, Json.ofText "property"), ("name", Json.ofText name),
      ("type", type.toJson), ("can_read", .bool readable), ("can_write", .bool writable)]
  | .event name => Json.ofMembers [(tag, Json.ofText "event"), ("name", Json.ofText name)]
  | .field name => Json.ofMembers [(tag, Json.ofText "field"), ("name", Json.ofText name)]
  | .constructor name =>
    Json.ofMembers [(tag, Json.ofText "constructor"), ("name", Json.ofText name)]
  | .nestedType name =>
    Json.ofMembers [(tag, Json.ofText "nested_type"), ("name", Json.ofText name)]

end Member

namespace TypeDeclaration

structure Fields where
  scope : Option Text
  name : Option Text
  kind : Option TypeKind
  exported : Option Bool
  members : Option (List Member)

def member : Json.MemberReader Fields := fun given key =>
  if key == "namespace" then
    some (Json.once "namespace" given.scope Json.asText ({ given with scope := some · }))
  else if key == "name" then
    some (Json.once "name" given.name Json.asText ({ given with name := some · }))
  else if key == "kind" then
    some (Json.once "kind" given.kind TypeKind.reader ({ given with kind := some · }))
  else if key == "exported" then
    some (Json.once "exported" given.exported Json.asBool ({ given with exported := some · }))
  else if key == "members" then
    some (Json.once "members" given.members (Json.asList Member.reader)
      ({ given with members := some · }))
  else none

def reader : Reader TypeDeclaration
  | .object members whole => do
    let given ← Json.readMembers member whole ⟨none, none, none, none, none⟩ members
    let name ← Json.required "name" given.name
    let kind ← Json.required "kind" given.kind
    .ok ⟨given.scope.getD [], name, kind, given.exported.getD true, given.members.getD []⟩
  | .array items whole => do
    let (scope, rest) ← Positions.defaulted Json.asText [] ⟨items, whole⟩
    let (name, rest) ← rest.needed Json.asText
    let (kind, rest) ← rest.needed TypeKind.reader
    let (exported, rest) ← rest.defaulted Json.asBool true
    let (members, rest) ← rest.defaulted (Json.asList Member.reader) []
    rest.finish .malformed
    .ok ⟨scope, name, kind, exported, members⟩
  | other => .error other.mismatch

def toJson (type : TypeDeclaration) : Json :=
  Json.ofMembers [("namespace", Json.ofText type.scope), ("name", Json.ofText type.name),
    ("kind", type.kind.toJson), ("exported", .bool type.exported),
    ("members", Json.ofList (type.members.map Member.toJson))]

end TypeDeclaration

namespace Assembly

structure Fields where
  name : Option Text
  types : Option (List TypeDeclaration)

def member : Json.MemberReader Fields := fun given key =>
  if key == "name" then
    some (Json.once "name" given.name Json.asText ({ given with name := some · }))
  else if key == "types" then
    some (Json.once "types" given.types (Json.asList TypeDeclaration.reader)
      ({ given with types := some · }))
  else none

def reader : Reader Assembly
  | .object members whole => do
    let given ← Json.readMembers member whole ⟨none, none⟩ members
    let name ← Json.required "name" given.name
    .ok ⟨name, given.types.getD []⟩
  | .array items whole => do
    let (name, rest) ← Positions.needed Json.asText ⟨items, whole⟩
    let (types, rest) ← rest.defaulted (Json.asList TypeDeclaration.reader) []
    rest.finish .malformed
    .ok ⟨name, types⟩
  | other => .error other.mismatch

def ofBytes (bytes : Bytes) : Except Fault Assembly :=
  Json.decode reader bytes

def toJson (assembly : Assembly) : Json :=
  Json.ofMembers [("name", Json.ofText assembly.name),
    ("types", Json.ofList (assembly.types.map TypeDeclaration.toJson))]

end Assembly

end ContractProxy
