import ContractProxy.Text.Lines

/-!
Comparison of generated files line by line. The line that names the tool's version is not compared.
-/

set_option autoImplicit false

namespace ContractProxy

/-- The first difference of two files: a line that both have, or the number of lines. -/
inductive Difference where
  | line (number : Nat) (expected actual : Text)
  | length (expected actual : Nat)
  deriving DecidableEq, Repr

namespace Difference

def versionLine : Nat := 4

def message : Difference → Text
  | .line number expected actual =>
    "first difference is at line " ++ Text.decimal number ++ ": expected '" ++ expected ++
      "', found '" ++ actual ++ "'"
  | .length expected actual =>
    "expected " ++ Text.decimal expected ++ " lines, found " ++ Text.decimal actual

/-- The first line, from the given number on, that two files have and on which they differ. -/
def firstLine (number : Nat) : List Text → List Text → Option Difference
  | expected :: restExpected, actual :: restActual =>
    if number != versionLine && !(expected == actual) then some (.line number expected actual)
    else firstLine (number + 1) restExpected restActual
  | _, _ => none

def ofLines (expected actual : List Text) : Option Difference :=
  match firstLine 1 expected actual with
  | some difference => some difference
  | none =>
    if expected.length == actual.length then none
    else some (.length expected.length actual.length)

def between (expected actual : Text) : Option Difference :=
  ofLines (Text.lines expected) (Text.lines actual)

end Difference

end ContractProxy
