import ContractProxy.Contract.Basic
import ContractProxy.TypeRef.Validity

/-!
From a declared type to the contract it stands for. A type is refused with the first thing that a
proxy cannot express, in declaration order.
-/

set_option autoImplicit false

namespace ContractProxy

inductive Rejection.Cause where
  | notContract (found : Text)
  | generic
  | unsupportedMember (member kind : Text)
  | duplicateParameter (method parameter : Text)
  | writeOnlyProperty (property : Text)
  | invalidIdentifier (identifier : Text)
  | invalidNamespace (scope : Text)
  | invalidType (member name : Text)
  | voidType (member : Text)
  | rankTooLarge (member : Text) (rank : Nat)
  deriving DecidableEq, Repr

structure Rejection where
  contract : Text
  cause : Rejection.Cause
  deriving DecidableEq, Repr

def Rejection.message (rejection : Rejection) : Text :=
  let contract := rejection.contract
  match rejection.cause with
  | .notContract found =>
    "'" ++ contract ++ "' is not an exported interface (found " ++ found ++ ")"
  | .generic => "'" ++ contract ++ "' is generic; generic contracts are not supported"
  | .unsupportedMember member kind =>
    "'" ++ contract ++ "' declares " ++ kind ++ " '" ++ member ++ "', which a proxy cannot forward"
  | .duplicateParameter method parameter =>
    "'" ++ contract ++ "." ++ method ++ "' declares parameter '" ++ parameter ++
      "' more than once"
  | .writeOnlyProperty property =>
    "'" ++ contract ++ "." ++ property ++ "' is write-only; properties must be readable"
  | .invalidIdentifier identifier =>
    "'" ++ contract ++ "' uses '" ++ identifier ++ "', which is not a valid identifier"
  | .invalidNamespace scope =>
    "'" ++ contract ++ "' is declared in '" ++ scope ++ "', which is not a valid namespace"
  | .invalidType member name =>
    "'" ++ contract ++ "." ++ member ++ "' uses type '" ++ name ++
      "', which is not a valid type name"
  | .voidType member =>
    "'" ++ contract ++ "." ++ member ++ "' uses System.Void where a value type is required"
  | .rankTooLarge member rank =>
    "'" ++ contract ++ "." ++ member ++ "' declares an array of rank " ++ Text.decimal rank ++
      ", beyond the C# maximum"

namespace Contract

open Rejection (Cause)

def requireIdentifier (name : Text) : Except Cause Unit :=
  if CSharp.isIdentifier name then .ok () else .error (.invalidIdentifier name)

def requireType (member : Text) (type : TypeRef) : Except Cause Unit :=
  match type.check with
  | .ok () => .ok ()
  | .error (.invalid name) => .error (.invalidType member name)
  | .error (.rankTooLarge rank) => .error (.rankTooLarge member rank)
  | .error .void => .error (.voidType member)

/-- Checks parameters from left to right; `seen` holds the names of those before. -/
def checkParameters (method : Text) : List Text → List Parameter → Except Cause Unit
  | _, [] => .ok ()
  | seen, parameter :: rest => do
    requireIdentifier parameter.name
    requireType method parameter.type
    if seen.contains parameter.name then .error (.duplicateParameter method parameter.name)
    else checkParameters method (parameter.name :: seen) rest

/-- A method without a return type and one that returns plain void return no value. -/
def returnedType (member : Text) : Option TypeRef → Except Cause (Option TypeRef)
  | none => .ok none
  | some type =>
    if type.isVoid then .ok none
    else do
      requireType member type
      .ok (some type)

def ofMember (member : Member) : Except Cause ContractMember :=
  match member with
  | .method name parameters returns _ => do
    requireIdentifier name
    checkParameters name [] parameters
    let returns ← returnedType name returns
    .ok (.method name parameters returns)
  | .property name type readable writable => do
    requireIdentifier name
    if !readable then .error (.writeOnlyProperty name)
    else do
      requireType name type
      .ok (.property name type writable)
  | other => .error (.unsupportedMember other.name other.kindLabel)

def declaredProperties (members : List Member) : List Text :=
  members.filterMap fun
    | .property name _ _ _ => some name
    | _ => none

/-- What an accessor's name says after `get_` or `set_`. -/
def accessedName? : Text → Option Text
  | 'g' :: 'e' :: 't' :: '_' :: name => some name
  | 's' :: 'e' :: 't' :: '_' :: name => some name
  | _ => none

/-- A method is an accessor if it is named for one of the declared properties. -/
def isAccessor (properties : List Text) : Member → Bool
  | .method name _ _ _ => (accessedName? name).any properties.contains
  | _ => false

def ownMembers (members : List Member) : List Member :=
  let properties := declaredProperties members
  members.filter fun member => !isAccessor properties member

def visibleKind (type : TypeDeclaration) : Text :=
  (if type.exported then "exported " else "non-exported ") ++ type.kind.label

def checkType (type : TypeDeclaration) : Except Cause Unit :=
  if !type.isContract then .error (.notContract (visibleKind type))
  else if type.name.contains '\x60' then .error .generic
  else if !CSharp.isIdentifier type.name then .error (.invalidIdentifier type.name)
  else if !type.scope.isEmpty && !CSharp.isDottedName type.scope then
    .error (.invalidNamespace type.scope)
  else .ok ()

def ofType (type : TypeDeclaration) : Except Rejection Contract :=
  let members : Except Cause (List ContractMember) := do
    checkType type
    (ownMembers type.members).mapM ofMember
  match members with
  | .ok members => .ok ⟨type.name, type.fullName, members⟩
  | .error cause => .error ⟨type.fullName, cause⟩

end Contract

end ContractProxy
