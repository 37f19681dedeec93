import ContractProxy.Assembly.Basic

/-!
Contracts as proxies see them: methods and properties in declaration order, with the accessors of
a property folded into it.
-/

set_option autoImplicit false

namespace ContractProxy

/-- A method that returns no value has no return type. -/
inductive ContractMember where
  | method (name : Text) (parameters : List Parameter) (returns : Option TypeRef)
  | property (name : Text) (type : TypeRef) (writable : Bool)
  deriving DecidableEq, Repr

namespace ContractMember

def name : ContractMember → Text
  | .method name _ _ => name
  | .property name _ _ => name

def isMethod : ContractMember → Bool
  | .method .. => true
  | .property .. => false

end ContractMember

structure Contract where
  name : Text
  fullName : Text
  members : List ContractMember
  deriving DecidableEq, Repr

namespace Contract

def methodNames (contract : Contract) : List Text :=
  (contract.members.filter ContractMember.isMethod).map ContractMember.name

def propertyNames (contract : Contract) : List Text :=
  (contract.members.filter (!·.isMethod)).map ContractMember.name

end Contract

end ContractProxy
