import ContractProxy.Config.Basic
import ContractProxy.File.Path
import ContractProxy.Text.Blank

/-!
Which configurations are valid. The first fault in the order of the sections is reported.
-/

set_option autoImplicit false

namespace ContractProxy.Config

def longestPath : Nat := 4096

def longestComponent : Nat := 255

inductive PathFault where
  | blank | tooLong | componentTooLong
  deriving DecidableEq, Repr

def PathFault.message : PathFault → Text
  | .blank => " must be non-empty"
  | .tooLong => " exceeds max length"
  | .componentTooLong => " path component too long"

inductive Invalidity where
  | oversized | notUtf8
  | scope (value : Text)
  | blank (field : Text)
  | memberName (field value : Text)
  | options (fault : ProxyOptions.Fault)
  | marker
  | lead (value : Text)
  | path (field : Text) (fault : PathFault)
  deriving DecidableEq, Repr

def Invalidity.message : Invalidity → Text
  | .oversized => "config file exceeds size limit"
  | .notUtf8 => "config file must be utf-8"
  | .scope value => "generator.namespace must be a dotted identifier: '" ++ value ++ "'"
  | .blank field => field ++ " must be non-empty"
  | .memberName field value => field ++ " must be an identifier: '" ++ value ++ "'"
  | .options fault => "generator: " ++ (ProxyFault.invalidOption fault).message
  | .marker => "naming.marker must be a single ascii letter"
  | .lead value => "naming.prefix must be an identifier: '" ++ value ++ "'"
  | .path field fault => field ++ fault.message

def checkLimits (path : Text) : Except PathFault Unit :=
  if longestPath < Text.byteLength path then .error .tooLong
  else if longestComponent < Path.longestSegment path then .error .componentTooLong
  else .ok ()

/-- Blanks around a path do not count here. -/
def checkPath (path : Text) : Except PathFault Unit :=
  if Text.isBlankText path then .error .blank else checkLimits (Text.trim path)

def checkPathField (field : Text) : Option Text → Except Invalidity Unit
  | some path => (checkPath path).mapError (.path field)
  | none => .ok ()

def checkScope : Option Text → Except Invalidity Unit
  | some scope => if CSharp.isDottedName scope then .ok () else .error (.scope scope)
  | none => .ok ()

def typeFields (options : ProxyOptions) : List (Text × Text) :=
  [("generator.base_type", options.baseType), ("generator.facade_type", options.facadeType),
   ("generator.token_type", options.tokenType),
   ("generator.platform_type", options.platformType)]

def methodFields (options : ProxyOptions) : List (Text × Text) :=
  [("generator.factory_method", options.factoryMethod),
   ("generator.invoke_func", options.invokeFunc),
   ("generator.invoke_action", options.invokeAction)]

/-- Names that are blank or no member names are reported before the other rules for options. -/
def checkOptions (options : ProxyOptions) : Except Invalidity Unit :=
  match (typeFields options).find? fun (_, value) => Text.isBlankText value with
  | some (field, _) => .error (.blank field)
  | none =>
    match (methodFields options).find? fun (_, value) => !ProxyOptions.isMemberName value with
    | some (field, value) => .error (.memberName field value)
    | none => options.validate.mapError .options

def isMarker : Text → Bool
  | [c] => c.isAlpha
  | _ => false

def checkNaming (marker lead : Text) : Except Invalidity Unit :=
  if !isMarker marker then .error .marker
  else if !CSharp.isIdentifier lead then .error (.lead lead)
  else .ok ()

def validate (config : Config) : Except Invalidity Unit := do
  checkScope config.scope
  checkPathField "generator.source_assembly" config.sourceAssembly
  checkOptions config.options
  checkNaming config.marker config.lead
  checkPathField "output.target_folder" config.targetFolder

end ContractProxy.Config
