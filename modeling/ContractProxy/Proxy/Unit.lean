import ContractProxy.Contract.Basic
import ContractProxy.Proxy.Naming
import ContractProxy.Proxy.Options
import ContractProxy.TypeRef.Rendering

/-!
Source files of proxies. A proxy derives from the base type for its contract, implements the
contract and forwards each member through the base. The file is a list of lines; only the fourth
depends on the tool's version.
-/

set_option autoImplicit false

namespace ContractProxy

structure Fragment where
  name : Text
  isMethod : Bool
  lines : List Text
  deriving DecidableEq, Repr

structure ProxyUnit where
  header : List Text
  scope : Text
  className : Text
  contract : Text
  declaration : Text
  constructor : List Text
  factory : List Text
  members : List Fragment
  deriving DecidableEq, Repr

inductive ProxyFault where
  | invalidNamespace (name : Text)
  | invalidOption (fault : ProxyOptions.Fault)
  | naming (fault : ClassNaming.Fault)
  | closureParameter (contract method : Text)
  deriving DecidableEq, Repr

def closureName : Text := "_"

def ProxyFault.message : ProxyFault → Text
  | .invalidNamespace name => "synthesis error: invalid namespace: '" ++ name ++ "'"
  | .invalidOption fault => "synthesis error: " ++ fault.message
  | .naming fault => fault.message
  | .closureParameter contract method =>
    "synthesis error: parameter '" ++ closureName ++ "' of '" ++ contract ++ "." ++ method ++
      "' collides with the forwarding closure parameter"

def endLines (lines : List Text) : Text :=
  lines.flatMap (· ++ "\n")

def indent (levels : Nat) : Text :=
  List.replicate (4 * levels) ' '

namespace ProxyUnit

def fileName (unit : ProxyUnit) : Text :=
  ClassNaming.fileOfClass unit.className

def fragments (unit : ProxyUnit) : List (List Text) :=
  [unit.constructor] ++ (unit.members.filter (!·.isMethod)).map Fragment.lines ++
    [unit.factory] ++ (unit.members.filter Fragment.isMethod).map Fragment.lines

/-- The lines of the file. A separator line keeps the indentation of its level. -/
def lines (unit : ProxyUnit) : List Text :=
  let opening : List Text :=
    ["", "namespace " ++ unit.scope, "\x7b", indent 1, indent 1, unit.declaration,
     indent 1 ++ "\x7b"]
  let closing : List Text := [indent 1 ++ "\x7d", "\x7d"]
  unit.header ++ opening ++ unit.fragments.flatMap (indent 2 :: ·) ++ closing

def render (unit : ProxyUnit) : Text :=
  endLines unit.lines

end ProxyUnit

def constructionNames : Text := "facade, token, platform"

structure ProxyTemplate where
  options : ProxyOptions
  naming : ClassNaming
  deriving DecidableEq, Repr

namespace ProxyTemplate

def default : ProxyTemplate := ⟨.default, .default⟩

def headerLines (version : Text) : List Text :=
  let rule : Text := "//" ++ List.replicate 78 '-'
  [rule,
   "// <auto-generated>",
   "//     This code was generated by a tool.",
   "//     Runtime Version:" ++ version,
   "//",
   "//     Changes to this file may cause incorrect behavior and will be lost if",
   "//     the code is regenerated.",
   "// </auto-generated>",
   rule]

def parameterList (options : ProxyOptions) : Text :=
  options.facadeType ++ " facade, " ++ options.tokenType ++ " token, " ++ options.platformType ++
    " platform"

def constructorLines (options : ProxyOptions) (className : Text) : List Text :=
  [indent 2 ++ "public " ++ className ++ "(" ++ parameterList options ++ ") : ",
   indent 4 ++ "base(" ++ constructionNames ++ ")",
   indent 2 ++ "\x7b",
   indent 2 ++ "\x7d"]

def factoryLines (options : ProxyOptions) (className contract : Text) : List Text :=
  [indent 2 ++ "public static " ++ contract ++ " " ++ options.factoryMethod ++ "(" ++
     parameterList options ++ ")",
   indent 2 ++ "\x7b",
   indent 3 ++ "return new " ++ className ++ "(" ++ constructionNames ++ ");",
   indent 2 ++ "\x7d"]

def accessorLines (accessor statement : Text) : List Text :=
  [indent 3 ++ accessor, indent 3 ++ "\x7b", indent 4 ++ statement, indent 3 ++ "\x7d"]

def forwarding (invoke expression : Text) : Text :=
  "base." ++ invoke ++ "(" ++ closureName ++ " => " ++ closureName ++ "." ++ expression ++
    ");"

def propertyLines (options : ProxyOptions) (name : Text) (type : TypeRef) (writable : Bool) :
    List Text :=
  let name := CSharp.escaped name
  [indent 2 ++ "public " ++ type.csharp ++ " " ++ name, indent 2 ++ "\x7b"] ++
    accessorLines "get" ("return " ++ forwarding options.invokeFunc name) ++
    (if writable then
      accessorLines "set" (forwarding options.invokeAction (name ++ " = value"))
     else []) ++
    [indent 2 ++ "\x7d"]

def methodLines (options : ProxyOptions) (name : Text) (parameters : List Parameter)
    (returns : Option TypeRef) : List Text :=
  let name := CSharp.escaped name
  let declared : Text := List.intercalate ", " (parameters.map fun parameter =>
    parameter.type.csharp ++ " " ++ CSharp.escaped parameter.name)
  let forwarded : Text := List.intercalate ", " (parameters.map fun parameter =>
    CSharp.escaped parameter.name)
  let call := name ++ "(" ++ forwarded ++ ")"
  let (result, statement) : Text × Text :=
    match returns with
    | some type => (type.csharp, "return " ++ forwarding options.invokeFunc call)
    | none => ("void", forwarding options.invokeAction call)
  [indent 2 ++ "public " ++ result ++ " " ++ name ++ "(" ++ declared ++ ")",
   indent 2 ++ "\x7b",
   indent 3 ++ statement,
   indent 2 ++ "\x7d"]

/-- The wrapper of one member. A parameter may not have the name of the closure's. -/
def fragment (options : ProxyOptions) (contract : Text) :
    ContractMember → Except ProxyFault Fragment
  | .property name type writable => .ok ⟨name, false, propertyLines options name type writable⟩
  | .method name parameters returns =>
    if parameters.any (·.name == closureName) then .error (.closureParameter contract name)
    else .ok ⟨name, true, methodLines options name parameters returns⟩

def declarationLine (options : ProxyOptions) (className contract : Text) : Text :=
  indent 1 ++ options.visibility ++ " sealed class " ++ className ++ " : " ++
    options.baseTypeOf contract ++ ", " ++ contract

def unitFor (template : ProxyTemplate) (scope : Text) (contract : Contract) :
    Except ProxyFault ProxyUnit := do
  let options := template.options
  if !CSharp.isDottedName scope then .error (.invalidNamespace scope)
  options.validate.mapError .invalidOption
  let className ← (template.naming.className contract.name).mapError .naming
  let members ← contract.members.mapM (fragment options contract.fullName)
  .ok {
    header := headerLines options.toolVersion
    scope := scope
    className := className
    contract := contract.fullName
    declaration := declarationLine options className contract.fullName
    constructor := constructorLines options className
    factory := factoryLines options className contract.fullName
    members := members }

end ProxyTemplate

end ContractProxy
