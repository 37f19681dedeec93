import ContractProxy.TypeRef.Basic

/-!
The exported types of one assembly with their members, as its metadata document lists them.
-/

set_option autoImplicit false

namespace ContractProxy

inductive TypeKind where
  | interface | reference | value | enumeration | delegate
  deriving DecidableEq, Repr

def TypeKind.label : TypeKind → Text
  | .interface => "interface"
  | .reference => "class"
  | .value => "struct"
  | .enumeration => "enum"
  | .delegate => "delegate"

structure Parameter where
  name : Text
  type : TypeRef
  deriving DecidableEq, Repr

inductive Member where
  | method (name : Text) (parameters : List Parameter) (returns : Option TypeRef) (special : Bool)
  | property (name : Text) (type : TypeRef) (readable writable : Bool)
  | event (name : Text)
  | field (name : Text)
  | constructor (name : Text)
  | nestedType (name : Text)
  deriving DecidableEq, Repr

namespace Member

def name : Member → Text
  | .method name _ _ _ => name
  | .property name _ _ _ => name
  | .event name => name
  | .field name => name
  | .constructor name => name
  | .nestedType name => name

def kindLabel : Member → Text
  | .method .. => "method"
  | .property .. => "property"
  | .event _ => "event"
  | .field _ => "field"
  | .constructor _ => "constructor"
  | .nestedType _ => "nested type"

end Member

/-- A declared type; an empty scope is the global namespace. -/
structure TypeDeclaration where
  scope : Text
  name : Text
  kind : TypeKind
  exported : Bool
  members : List Member
  deriving DecidableEq, Repr

namespace TypeDeclaration

def fullName (type : TypeDeclaration) : Text :=
  if type.scope.isEmpty then type.name else type.scope ++ "." ++ type.name

def isContract (type : TypeDeclaration) : Bool :=
  type.exported && type.kind == .interface

end TypeDeclaration

structure Assembly where
  name : Text
  types : List TypeDeclaration
  deriving DecidableEq, Repr

namespace Assembly

def sizeLimit : Nat := 4 * 1024 * 1024

def find? (assembly : Assembly) (fullName : Text) : Option TypeDeclaration :=
  assembly.types.find? fun type => type.fullName == fullName

def contracts (assembly : Assembly) : List TypeDeclaration :=
  assembly.types.filter TypeDeclaration.isContract

end Assembly

end ContractProxy
