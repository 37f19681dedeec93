import ContractProxy.Json.Decoding
import ContractProxy.Json.Printer
import ContractProxy.Text.Blank

/-!
Execution platforms and the names they are read from.
-/

set_option autoImplicit false

namespace ContractProxy

inductive Platform where
  | host | anyCpu | x86 | x64 | arm
  deriving DecidableEq, Repr

namespace Platform

def name : Platform → Text
  | .host => "Host"
  | .anyCpu => "AnyCpu"
  | .x86 => "X86"
  | .x64 => "X64"
  | .arm => "Arm"

def all : List Platform := [.host, .anyCpu, .x86, .x64, .arm]

def sameAsciiName (s t : Text) : Bool :=
  s.map Char.toLower == t.map Char.toLower

/-- Reads a name; blanks around it and the case of ASCII letters do not count. -/
def ofName? (value : Text) : Option Platform :=
  all.find? fun platform => sameAsciiName platform.name (Text.trim value)

def ofNameOrHost (value : Text) : Platform :=
  (ofName? value).getD .host

def unknownMessage (value : Text) : Text :=
  "unknown platform: " ++ value

def variants : List (Text × Platform) :=
  [("host", .host), ("any_cpu", .anyCpu), ("x86", .x86), ("x64", .x64), ("arm", .arm)]

def reader : Json.Reader Platform :=
  Json.asPlainVariant variants

def jsonName : Platform → Text
  | .host => "host"
  | .anyCpu => "any_cpu"
  | .x86 => "x86"
  | .x64 => "x64"
  | .arm => "arm"

def toJson (platform : Platform) : Json :=
  Json.ofText platform.jsonName

end Platform

end ContractProxy
