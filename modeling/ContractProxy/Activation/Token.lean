import ContractProxy.Activation.Platform
import ContractProxy.Activation.Qualifications

/-!
Tokens identify the candidates that an activation service offers. The platform to activate a
candidate under is part of its qualification data.
-/

set_option autoImplicit false

namespace ContractProxy

structure Token where
  name : Text
  publisher : Text
  version : Text
  description : Text
  qualifications : Qualifications
  deriving DecidableEq, Repr

namespace Token

def named (name : Text) : Token := ⟨name, [], [], [], .empty⟩

def qualify (token : Token) (key value : Text) : Token :=
  { token with qualifications := token.qualifications.insert key value }

def platformKey : Text := "Platform"

def platform (token : Token) : Platform :=
  match token.qualifications.get? platformKey with
  | some value => .ofNameOrHost value
  | none => .host

structure Fields where
  name : Option Text
  publisher : Option Text
  version : Option Text
  description : Option Text
  qualifications : Option Qualifications

/-- A later value of a key replaces an earlier one. -/
def qualificationReader : Json.Reader Qualifications
  | .object members whole =>
    Json.readMembers
      (fun given key => some fun value => (Json.asText value).map (given.insert key))
      whole .empty members
  | other => .error other.mismatch

def member : Json.MemberReader Fields := fun given key =>
  if key == "name" then
    some (Json.once "name" given.name Json.asText ({ given with name := some · }))
  else if key == "publisher" then
    some (Json.once "publisher" given.publisher Json.asText ({ given with publisher := some · }))
  else if key == "version" then
    some (Json.once "version" given.version Json.asText ({ given with version := some · }))
  else if key == "description" then
    some (Json.once "description" given.description Json.asText
      ({ given with description := some · }))
  else if key == "qualification_data" then
    some (Json.once "qualification_data" given.qualifications qualificationReader
      ({ given with qualifications := some · }))
  else none

def reader : Json.Reader Token
  | .object members whole => do
    let given ← Json.readMembers member whole ⟨none, none, none, none, none⟩ members
    let name ← Json.required "name" given.name
    .ok ⟨name, given.publisher.getD [], given.version.getD [], given.description.getD [],
      given.qualifications.getD .empty⟩
  | .array items whole => do
    let (name, rest) ← Json.Positions.needed Json.asText ⟨items, whole⟩
    let (publisher, rest) ← rest.defaulted Json.asText []
    let (version, rest) ← rest.defaulted Json.asText []
    let (description, rest) ← rest.defaulted Json.asText []
    let (qualifications, rest) ← rest.defaulted qualificationReader .empty
    rest.finish .malformed
    .ok ⟨name, publisher, version, description, qualifications⟩
  | other => .error other.mismatch

def ofBytes (bytes : Bytes) : Except Json.Fault Token :=
  Json.decode reader bytes

def qualificationsJson (qualifications : Qualifications) : Json :=
  Json.ofMembers (qualifications.entries.map fun (key, value) => (key, Json.ofText value))

def toJson (token : Token) : Json :=
  Json.ofMembers [("name", Json.ofText token.name), ("publisher", Json.ofText token.publisher),
    ("version", Json.ofText token.version), ("description", Json.ofText token.description),
    ("qualification_data", qualificationsJson token.qualifications)]

end Token

end ContractProxy
