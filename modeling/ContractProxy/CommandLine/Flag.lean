import ContractProxy.Event.Basic

/-!
The commands and the flags of the command line.
-/

set_option autoImplicit false

namespace ContractProxy.CommandLine

inductive Verb where
  | generate | check | list
  deriving DecidableEq, Repr

namespace Verb

def name : Verb → Text
  | .generate => "generate"
  | .check => "check"
  | .list => "list"

def all : List Verb := [.generate, .check, .list]

def ofName? (name : Text) : Option Verb :=
  all.find? (·.name == name)

end Verb

inductive Flag where
  | scope | source | target | contract | config | level
  deriving DecidableEq, Repr

namespace Flag

def name : Flag → Text
  | .scope => "namespace"
  | .source => "source-assembly"
  | .target => "target-folder"
  | .contract => "contract"
  | .config => "config"
  | .level => "log-level"

def levels : List Level := [.info, .warn, .error]

def level? (value : Text) : Option Level :=
  levels.find? (·.label == value)

def accepts (flag : Flag) (value : Text) : Bool :=
  match flag with
  | .source | .target | .config => !value.isEmpty
  | .level => (level? value).isSome
  | .scope | .contract => true

/-- The flags of a command, or those that stand before any command. -/
def known : Option Verb → List Flag
  | none => [.level]
  | some .list => [.source, .config, .level]
  | some _ => [.scope, .source, .target, .contract, .config, .level]

def find? (verb : Option Verb) (name : Text) : Option Flag :=
  (known verb).find? (·.name == name)

end Flag

end ContractProxy.CommandLine
