import ContractProxy.Text.Lowercase

/-!
Names of generated classes and files. A contract's name begins with a marker, in either case; the
class is named by a lead in the marker's place.
-/

set_option autoImplicit false

namespace ContractProxy

structure ClassNaming where
  marker : Char
  lead : Text
  deriving DecidableEq, Repr

namespace ClassNaming

inductive Fault where
  | missingMarker (contract : Text) (marker : Char)
  | emptyName (contract : Text) (marker : Char)
  deriving DecidableEq, Repr

def Fault.message : Fault → Text
  | .missingMarker contract marker =>
    "contract name '" ++ contract ++ "' must begin with '" ++ [marker] ++ "'"
  | .emptyName contract marker =>
    "contract name '" ++ contract ++ "' has nothing after the '" ++ [marker] ++ "' marker"

def defaultMarker : Char := 'I'

def defaultLead : Text := "Restartable"

def default : ClassNaming := ⟨defaultMarker, defaultLead⟩

def sameLetter (c d : Char) : Bool :=
  Text.lowercaseChar c == Text.lowercaseChar d

def className (rule : ClassNaming) : Text → Except Fault Text
  | [] => .error (.missingMarker [] rule.marker)
  | c :: rest =>
    if !sameLetter c rule.marker then .error (.missingMarker (c :: rest) rule.marker)
    else if rest.isEmpty then .error (.emptyName (c :: rest) rule.marker)
    else .ok (rule.lead ++ rest)

def fileExtension : Text := "cs"

def fileOfClass (name : Text) : Text :=
  name ++ "." ++ fileExtension

def fileName (rule : ClassNaming) (contract : Text) : Except Fault Text :=
  (rule.className contract).map fileOfClass

end ClassNaming

end ContractProxy
