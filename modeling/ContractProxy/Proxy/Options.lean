import ContractProxy.CSharp.Name

/-!
The names that a rendered proxy uses: its base type, the types of the three construction
parameters, the members of the base that it calls, and the visibility of the class.
-/

set_option autoImplicit false

namespace ContractProxy

structure ProxyOptions where
  baseType : Text
  facadeType : Text
  tokenType : Text
  platformType : Text
  factoryMethod : Text
  invokeFunc : Text
  invokeAction : Text
  visibility : Text
  toolVersion : Text
  deriving DecidableEq, Repr

namespace ProxyOptions

def toolVersionText : Text := "0.1.0"

def default : ProxyOptions where
  baseType := "Solink.AddIn.Helpers.RestartableAddIn"
  facadeType := "Solink.AddIn.Helpers.AddInFacade"
  tokenType := "System.AddIn.Hosting.AddInToken"
  platformType := "System.AddIn.Hosting.Platform"
  factoryMethod := "Factory"
  invokeFunc := "Func"
  invokeAction := "Action"
  visibility := "public"
  toolVersion := toolVersionText

def placeholder : Text := "\x7bcontract\x7d"

def visibilities : List Text := ["public", "internal"]

structure Fault where
  option : Text
  value : Text
  deriving DecidableEq, Repr

def Fault.message (fault : Fault) : Text :=
  "invalid " ++ fault.option ++ ": '" ++ fault.value ++ "'"

def separatesNames (c : Char) : Bool :=
  c == '<' || c == '>' || c == ',' || c == ' '

/-- A dotted name; with a placeholder in it, dotted names between separators. The placeholder
counts as the name it is replaced by here. -/
def isBaseType (base : Text) : Bool :=
  if Text.hasMark placeholder base then
    let pieces := (Text.replaceAll placeholder "Contract" base).splitOnP separatesNames
    (pieces.filter (!·.isEmpty)).all CSharp.isDottedName
  else CSharp.isDottedName base

def isMemberName (name : Text) : Bool :=
  CSharp.isIdentifier name && !CSharp.isKeyword name

def isVersion (version : Text) : Bool :=
  !version.any fun c => c == '\n' || c == '\r'

def checks (options : ProxyOptions) : List (Text × Text × Bool) :=
  [("base_type", options.baseType, isBaseType options.baseType),
   ("facade_type", options.facadeType, CSharp.isDottedName options.facadeType),
   ("token_type", options.tokenType, CSharp.isDottedName options.tokenType),
   ("platform_type", options.platformType, CSharp.isDottedName options.platformType),
   ("factory_method", options.factoryMethod, isMemberName options.factoryMethod),
   ("invoke_func", options.invokeFunc, isMemberName options.invokeFunc),
   ("invoke_action", options.invokeAction, isMemberName options.invokeAction),
   ("class_visibility", options.visibility, visibilities.contains options.visibility),
   ("tool_version", options.toolVersion, isVersion options.toolVersion)]

def validate (options : ProxyOptions) : Except Fault Unit :=
  match options.checks.find? fun (_, _, valid) => !valid with
  | some (option, value, _) => .error ⟨option, value⟩
  | none => .ok ()

/-- The base type for a contract: the placeholder's place, or one type argument. -/
def baseTypeOf (options : ProxyOptions) (contract : Text) : Text :=
  if Text.hasMark placeholder options.baseType then
    Text.replaceAll placeholder contract options.baseType
  else options.baseType ++ "<" ++ contract ++ ">"

end ProxyOptions

end ContractProxy
