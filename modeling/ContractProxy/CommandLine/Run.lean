import ContractProxy.Batch.Generator
import ContractProxy.CommandLine.Request
import ContractProxy.Config.Loading
import ContractProxy.Event.Log

/-!
Running a request: the configuration is loaded, inputs are taken from the request or else from the
configuration, and the outcome is told in lines. A run whose last line of errors is a failure ends
with status 1.
-/

set_option autoImplicit false

namespace ContractProxy.CommandLine

structure Transcript where
  status : Nat
  output : List Text
  errors : List Text
  deriving DecidableEq, Repr

namespace Transcript

def succeeded (output : List Text) (errors : List Text) : Transcript :=
  ⟨0, output, errors⟩

def failed (output errors : List Text) (failure : Text) : Transcript :=
  ⟨1, output, errors ++ [failure]⟩

def refused (failure : Text) : Transcript :=
  failed [] [] failure

end Transcript

def missingInput (flag : Flag) (setting : Text) : Text :=
  "missing required argument --" ++ flag.name ++ " (or " ++ setting ++ " in config)"

def input (flag : Flag) (setting : Text) (requested configured : Option Text) :
    Except Text Text :=
  match requested.or configured with
  | some value => .ok value
  | none => .error (missingInput flag setting)

def sourceOf (request : Request) (config : Config) : Except Text Text :=
  input .source "generator.source_assembly" request.source config.sourceAssembly

structure Inputs where
  scope : Text
  source : Text
  target : Text
  deriving DecidableEq, Repr

/-- Inputs are looked for in this order; the namespace is checked before the others. -/
def resolve (request : Request) (config : Config) : Except Text Inputs := do
  let scope ← input .scope "generator.namespace" request.scope config.scope
  if !CSharp.isDottedName scope then .error ("invalid namespace: '" ++ scope ++ "'")
  else do
    let source ← sourceOf request config
    let target ← input .target "output.target_folder" request.target config.targetFolder
    .ok ⟨scope, source, target⟩

def unloadable (source : Text) (fault : GenerateFault) : Text :=
  "failed to load " ++ source ++ ": " ++ fault.message

def eventLines (level : Level) (events : List Event) : List Text :=
  (events.filter (·.level.reaches level)).map Event.text

def tell (level : Level) (done undone : Text) (report : Generator.Report) : Transcript :=
  let output := report.outputs.map (done ++ " " ++ ·)
  let failures := report.failures.map fun (contract, fault) => contract ++ ": " ++ fault.message
  let errors := eventLines level report.events ++ failures
  if report.allSucceeded then .succeeded output errors
  else
    .failed output errors (Text.decimal report.failures.length ++ " of " ++
      Text.decimal report.total ++ " contract(s) " ++ undone)

def listing (naming : ClassNaming) (contracts : List TypeDeclaration) : Transcript :=
  let named := contracts.map fun type => (type.fullName, naming.className type.name)
  let output := named.filterMap fun
    | (contract, .ok name) => some (contract ++ " -> " ++ name)
    | (_, .error _) => none
  let errors := named.filterMap fun
    | (contract, .error fault) => some (contract ++ ": " ++ fault.message)
    | (_, .ok _) => none
  if errors.isEmpty then .succeeded output []
  else
    .failed output errors
      (Text.decimal errors.length ++ " contract name(s) violate the naming rule")

variable {m : Type → Type} [Monad m] [FileStore m]

def runList (request : Request) (config : Config) : m Transcript := do
  match sourceOf request config with
  | .error failure => pure (.refused failure)
  | .ok source =>
    match ← Assembly.load source with
    | .error fault => pure (.refused (unloadable source fault))
    | .ok assembly => pure (listing config.naming assembly.contracts)

def withGenerator (request : Request) (config : Config)
    (use : Generator → Text → m Transcript) : m Transcript := do
  match resolve request config with
  | .error failure => pure (.refused failure)
  | .ok inputs =>
    match ← Assembly.load inputs.source with
    | .error fault => pure (.refused (unloadable inputs.source fault))
    | .ok assembly =>
      use ⟨assembly, inputs.scope, config.template, request.contract⟩ inputs.target

def runGenerate (request : Request) (config : Config) : m Transcript :=
  withGenerator request config fun generator target => do
    match ← generator.writeBatch target with
    | .error fault => pure (.refused ("generation failed: " ++ fault.message))
    | .ok report => pure (tell request.level "generated" "failed to generate" report)

def runCheck (request : Request) (config : Config) : m Transcript :=
  withGenerator request config fun generator target => do
    pure (tell request.level "up to date" "out of date" (← generator.checkBatch target))

def run (setting : Option Bytes) (request : Request) : m Transcript := do
  match ← Config.load request.config setting with
  | .error fault => pure (.refused fault.message)
  | .ok config =>
    match request.verb with
    | .generate => runGenerate request config
    | .check => runCheck request config
    | .list => runList request config

end ContractProxy.CommandLine
