import ContractProxy.Assembly.Json
import ContractProxy.Contract.Acceptance
import ContractProxy.Event.Basic
import ContractProxy.File.SourceFile
import ContractProxy.Proxy.Unit

/-!
Batches: all contracts of an assembly, or one of them, are generated, written or checked. A contract
that fails is reported and leaves the others alone; a file belongs to the first contract that is
generated for it.
-/

set_option autoImplicit false

namespace ContractProxy

inductive GenerateFault where
  | file (fault : FileFault)
  | output (fault : SourceFileFault)
  | json (fault : Json.Fault)
  | oversized
  | contractNotFound (name : Text)
  | rejected (rejection : Rejection)
  | proxy (fault : ProxyFault)
  | duplicateOutput (file first second : Text)
  | drift (path : Text) (drift : Drift)
  deriving DecidableEq, Repr

def GenerateFault.message : GenerateFault → Text
  | .file fault => "io error: " ++ fault.message
  | .output fault => "io error: " ++ fault.message
  | .json fault => "json error: " ++ fault.message
  | .oversized =>
    "metadata error: assembly metadata exceeds " ++ Text.decimal Assembly.sizeLimit ++ " bytes"
  | .contractNotFound name => "contract not found: " ++ name
  | .rejected rejection => rejection.message
  | .proxy fault => fault.message
  | .duplicateOutput name first second =>
    "'" ++ second ++ "' would overwrite " ++ name ++ ", already generated for '" ++ first ++ "'"
  | .drift path found =>
    "generated output drift detected for " ++ path ++ ": " ++ found.message

namespace Assembly

def ofDocument (bytes : Bytes) : Except GenerateFault Assembly :=
  if sizeLimit < bytes.length then .error .oversized
  else (ofBytes bytes).mapError .json

def load {m : Type → Type} [Monad m] [FileStore m] (path : Text) :
    m (Except GenerateFault Assembly) := do
  match ← FileStore.readBytes path with
  | .error fault => pure (.error (.file fault))
  | .ok bytes => pure (ofDocument bytes)

end Assembly

structure Generator where
  assembly : Assembly
  scope : Text
  template : ProxyTemplate
  only : Option Text
  deriving DecidableEq, Repr

namespace Generator

abbrev Outcome := Except GenerateFault ProxyUnit

def ofType (generator : Generator) (type : TypeDeclaration) : Outcome := do
  let contract ← (Contract.ofType type).mapError .rejected
  (generator.template.unitFor generator.scope contract).mapError .proxy

/-- The contract with a full name; any type of that name is tried. -/
def ofName (generator : Generator) (name : Text) : Outcome :=
  match generator.assembly.find? name with
  | some type => generator.ofType type
  | none => .error (.contractNotFound name)

def outcomes (generator : Generator) : List (Text × Outcome) :=
  match generator.only with
  | some name => [(name, generator.ofName name)]
  | none => generator.assembly.contracts.map fun type => (type.fullName, generator.ofType type)

/-- Gives each file to the first contract that is generated for it. `owners` maps the files given
away, their case folded, to their contracts. -/
def assignFiles (owners : List (Text × Text)) : List (Text × Outcome) → List (Text × Outcome)
  | [] => []
  | (contract, .error fault) :: rest => (contract, .error fault) :: assignFiles owners rest
  | (contract, .ok unit) :: rest =>
    let folded := Text.lowercase unit.fileName
    match owners.lookup folded with
    | some first =>
      (contract, .error (.duplicateOutput unit.fileName first contract)) :: assignFiles owners rest
    | none => (contract, .ok unit) :: assignFiles ((folded, contract) :: owners) rest

def selected (generator : Generator) : List (Text × Outcome) :=
  assignFiles [] generator.outcomes

abbrev Failures := List (Text × GenerateFault)

def failures {α : Type} (results : List (Text × Except GenerateFault α)) : Failures :=
  results.filterMap fun
    | (contract, .error fault) => some (contract, fault)
    | (_, .ok _) => none

def successes {α : Type} (results : List (Text × Except GenerateFault α)) : List α :=
  results.filterMap fun
    | (_, .ok value) => some value
    | (_, .error _) => none

def contractFailed (contract : Text) (fault : GenerateFault) : Event :=
  ⟨.error, .contractFailed, some contract, fault.message⟩

structure Batch where
  units : List ProxyUnit
  failures : Failures
  events : List Event

def batch (generator : Generator) : Batch where
  units := successes generator.selected
  failures := failures generator.selected
  events := (failures generator.selected).map fun (contract, fault) =>
    contractFailed contract fault

/-- The outcome of writing or checking a batch: the paths of files that succeeded, the contracts
that did not, and the events that were recorded. -/
structure Report where
  outputs : List Text
  failures : Failures
  events : List Event
  deriving DecidableEq, Repr

namespace Report

def allSucceeded (report : Report) : Bool :=
  report.failures.isEmpty

def total (report : Report) : Nat :=
  report.outputs.length + report.failures.length

def ofResults (operation : Text) (event : Text → Except GenerateFault Text → Option Event)
    (results : List (Text × Except GenerateFault Text)) : Report :=
  let outputs := Generator.successes results
  let failures := Generator.failures results
  let completed : Event :=
    { level := .info
      kind := .batchCompleted
      contract := none
      message := operation ++ " finished: " ++ Text.decimal outputs.length ++ " succeeded, " ++
        Text.decimal failures.length ++ " failed" }
  ⟨outputs, failures,
    results.filterMap (fun (contract, result) => event contract result) ++ [completed]⟩

end Report

variable {m : Type → Type} [Monad m] [FileStore m]

def eachFile (folder : Text) (operation : Text → Text → m (Except GenerateFault Unit)) :
    Text × Outcome → m (Text × Except GenerateFault Text)
  | (contract, .error fault) => pure (contract, .error fault)
  | (contract, .ok unit) => do
    let path := Path.join folder unit.fileName
    let result ← operation path unit.render
    pure (contract, result.map fun () => path)

def writtenEvent (contract : Text) : Except GenerateFault Text → Option Event
  | .ok path => some ⟨.info, .contractGenerated, some contract, "generated " ++ path⟩
  | .error fault => some (contractFailed contract fault)

def checkedEvent (contract : Text) : Except GenerateFault Text → Option Event
  | .ok _ => none
  | .error (.drift path drift) =>
    some ⟨.error, .driftDetected, some contract, (GenerateFault.drift path drift).message⟩
  | .error fault => some (contractFailed contract fault)

/-- Writes a file per selected contract. Only a folder that cannot be made fails as a whole. -/
def writeBatch (generator : Generator) (folder : Text) : m (Except GenerateFault Report) := do
  match ← FileStore.makeDirectories folder with
  | .error fault => pure (.error (.file fault))
  | .ok () =>
    let results ← generator.selected.mapM (eachFile folder fun path text => do
      pure ((← SourceFile.write path text).mapError .output))
    pure (.ok (Report.ofResults "write" writtenEvent results))

def checkBatch (generator : Generator) (folder : Text) : m Report := do
  let results ← generator.selected.mapM (eachFile folder fun path text => do
    pure ((← SourceFile.check path text).mapError (.drift path)))
  pure (Report.ofResults "check" checkedEvent results)

def shown (generator : Generator) : Text :=
  let only : Text :=
    match generator.only with
    | some name => "Some(" ++ Text.quoted name ++ ")"
    | none => "None"
  "ProxyGenerator \x7b assembly: " ++ Text.quoted generator.assembly.name ++ ", namespace: " ++
    Text.quoted generator.scope ++ ", only: " ++ only ++ ", .. \x7d"

end Generator

end ContractProxy
