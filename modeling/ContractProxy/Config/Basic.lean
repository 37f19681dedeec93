import ContractProxy.Proxy.Unit

/-!
The configuration of the generator: where contracts come from, which names proxies use, how classes
are named and where files go.
-/

set_option autoImplicit false

namespace ContractProxy

/-- The names are options of the template; a configuration does not set the tool's version. The
marker is kept as it was written. -/
structure Config where
  scope : Option Text
  sourceAssembly : Option Text
  options : ProxyOptions
  marker : Text
  lead : Text
  targetFolder : Option Text
  deriving DecidableEq, Repr

namespace Config

def default : Config where
  scope := none
  sourceAssembly := none
  options := .default
  marker := [ClassNaming.defaultMarker]
  lead := ClassNaming.defaultLead
  targetFolder := none

def naming (config : Config) : ClassNaming :=
  ⟨config.marker.headD ClassNaming.defaultMarker, config.lead⟩

def template (config : Config) : ProxyTemplate :=
  ⟨config.options, config.naming⟩

def sample : Text :=
  endLines (List.map String.toList
    ["[generator]",
     "namespace = \"Solink.Sample\"",
     "source_assembly = \"Solink.AddIn.Helpers.Test.json\"",
     "base_type = \"Solink.AddIn.Helpers.RestartableAddIn\"",
     "facade_type = \"Solink.AddIn.Helpers.AddInFacade\"",
     "token_type = \"System.AddIn.Hosting.AddInToken\"",
     "platform_type = \"System.AddIn.Hosting.Platform\"",
     "factory_method = \"Factory\"",
     "invoke_func = \"Func\"",
     "invoke_action = \"Action\"",
     "class_visibility = \"public\"",
     "",
     "[naming]",
     "marker = \"I\"",
     "prefix = \"Restartable\"",
     "",
     "[output]",
     "target_folder = \"generated\""])

end Config

end ContractProxy
