import ContractProxy.Json.Decoding
import ContractProxy.Json.Printer
import ContractProxy.TypeRef.Basic

/-!
The JSON forms of a type reference: a string in the plain spelling, or an object that is taken as
it stands. References are written as objects, without the arguments and the rank they lack.
-/

set_option autoImplicit false

namespace ContractProxy.TypeRef

open ContractProxy (Json)

mutual

def toJson : TypeRef → Json
  | ⟨name, arguments, rank⟩ =>
    let argumentList : List (Text × Json) :=
      if arguments.isEmpty then [] else [("arguments", Json.ofList (toJsonAll arguments))]
    let rankNumber : List (Text × Json) :=
      if rank == 0 then [] else [("array_rank", Json.ofNat rank.toNat)]
    Json.ofMembers (("name", Json.ofText name) :: (argumentList ++ rankNumber))

def toJsonAll : List TypeRef → List Json
  | [] => []
  | type :: others => toJson type :: toJsonAll others

end

structure Members where
  name : Option Text
  arguments : Option (List TypeRef)
  rank : Option UInt32

mutual

def ofJson? : Json → Option TypeRef
  | .string (some spelling) => some (ofSpelling spelling)
  | .object members _ => do
    let given ← ofMembers? ⟨none, none, none⟩ members
    let name ← given.name
    some ⟨name, given.arguments.getD [], given.rank.getD 0⟩
  | _ => none

/-- Reads members in their order; unknown ones are passed over, and none may be given twice. -/
def ofMembers? (given : Members) : List (Json × Json) → Option Members
  | [] => some given
  | (.string (some key), value) :: rest =>
    if key == "name" then
      match value with
      | .string (some name) =>
        if given.name.isSome then none else ofMembers? { given with name := some name } rest
      | _ => none
    else if key == "arguments" then
      match value with
      | .array items _ =>
        if given.arguments.isSome then none
        else (ofItems? items).bind fun types =>
          ofMembers? { given with arguments := some types } rest
      | _ => none
    else if key == "array_rank" then
      match Json.asWord value with
      | .ok rank =>
        if given.rank.isSome then none else ofMembers? { given with rank := some rank } rest
      | .error _ => none
    else ofMembers? given rest
  | _ :: _ => none

def ofItems? : List Json → Option (List TypeRef)
  | [] => some []
  | item :: rest => do
    let type ← ofJson? item
    let others ← ofItems? rest
    some (type :: others)

end

def choiceName : Text :=
  "TypeRefRepr"

/-- A reference is buffered before it is looked at, so all of it has to be JSON in full. -/
def reader (depth : Nat) : Json.Reader TypeRef := fun value =>
  if value.readable depth then
    match ofJson? value with
    | some type => .ok type
    | none => .error (.noVariant choiceName)
  else .error .malformed

end ContractProxy.TypeRef
