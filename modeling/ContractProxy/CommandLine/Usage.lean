import ContractProxy.CommandLine.Flag
import ContractProxy.Proxy.Options

/-!
What is printed instead of a run: the version, and how commands are given.
-/

set_option autoImplicit false

namespace ContractProxy.CommandLine

def programName : Text := "resilient-proxy"

def versionLine : Text :=
  programName ++ " " ++ ProxyOptions.toolVersionText

def Verb.purpose : Verb → Text
  | .generate => "Generate one proxy source file per contract"
  | .check => "Verify generated files match the current generator output"
  | .list => "List contract-shaped types and their generated class names"

def Flag.shown (flag : Flag) : Text :=
  let value : Text :=
    match flag with
    | .scope => "<NS>"
    | .source => "<FILE>"
    | .target => "<DIR>"
    | .contract => "<FULL_NAME>"
    | .config => "<FILE>"
    | .level => "<LOG_LEVEL>"
  "--" ++ flag.name ++ " " ++ value

def verbLines (verb : Verb) : List Text :=
  ("  " ++ verb.name ++ "  " ++ verb.purpose) ::
    (Flag.known (some verb)).map fun flag => "      " ++ flag.shown

def usageLines : List Text :=
  let opening : List Text :=
    ["Generate resilient proxy classes from assembly metadata.", "",
     "Usage: " ++ programName ++ " [OPTIONS] <COMMAND>", "", "Commands:"]
  opening ++ Verb.all.flatMap verbLines

end ContractProxy.CommandLine
