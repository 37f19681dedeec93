import ContractProxy.TypeRef.Basic

/-!
The C# spelling of a type reference.
-/

set_option autoImplicit false

namespace ContractProxy.TypeRef

def primitiveKeywords : List (Text × Text) :=
  [("System.Boolean", "bool"), ("System.Byte", "byte"), ("System.SByte", "sbyte"),
   ("System.Char", "char"), ("System.Decimal", "decimal"), ("System.Double", "double"),
   ("System.Single", "float"), ("System.Int16", "short"), ("System.UInt16", "ushort"),
   ("System.Int32", "int"), ("System.UInt32", "uint"), ("System.Int64", "long"),
   ("System.UInt64", "ulong"), ("System.Object", "object"), ("System.String", "string"),
   ("System.Void", "void")]

def dotted (name : Text) : Text :=
  name.map fun c => if c == '+' then '.' else c

/-- The name without its arity suffix, or the keyword of a primitive type. -/
def baseSpelling (name : Text) : Text :=
  match primitiveKeywords.lookup name with
  | some keyword => keyword
  | none => dotted (name.takeWhile (· != '\x60'))

def rankSuffix (rank : UInt32) : Text :=
  if rank == 0 then [] else arraySuffix rank.toNat

mutual

def csharp : TypeRef → Text
  | ⟨name, [], rank⟩ => baseSpelling name ++ rankSuffix rank
  | ⟨name, first :: others, rank⟩ =>
    baseSpelling name ++ "<" ++ csharp first ++ csharpRest others ++ ">" ++ rankSuffix rank

def csharpRest : List TypeRef → Text
  | [] => []
  | type :: others => ", " ++ csharp type ++ csharpRest others

end

end ContractProxy.TypeRef
