import ContractProxy.CSharp.Name
import ContractProxy.TypeRef.Rendering

/-!
Which type references a signature may carry: every name is a dotted name with an arity that fits
its arguments, no array has too many dimensions, and the void type stands nowhere.
-/

set_option autoImplicit false

namespace ContractProxy.TypeRef

def maxRank : Nat := 32

inductive Fault where
  | invalid (name : Text)
  | rankTooLarge (rank : Nat)
  | void
  deriving DecidableEq, Repr

/-- The largest rank of a node; ranks beyond 32 bits count as the largest word. -/
def widestRank (ranks : List Nat) (rank : UInt32) : Nat :=
  (ranks.map (min · 4294967295)).foldl max rank.toNat

def splitArity (base : Text) : Text × Option Text :=
  match base.dropWhile (· != '\x60') with
  | [] => (base, none)
  | _ :: digits => (base.takeWhile (· != '\x60'), some digits)

/-- A non-empty run of decimal digits whose value fits 64 bits. -/
def arity? (digits : Text) : Option Nat :=
  if digits.isEmpty || !digits.all Char.isDigit then none
  else
    let value := digits.foldl (fun n c => 10 * n + (c.toNat - 48)) 0
    if value < UInt64.size then some value else none

/-- The check of one node with the given number of arguments, in the order in which faults win:
brackets, rank, arity suffix, void, name, number of arguments. -/
def checkNode (name : Text) (arguments : Nat) (rank : UInt32) : Except Fault Unit :=
  match peelSuffixes none [] name.reverse with
  | none => .error (.invalid name)
  | some (base, ranks) =>
    if maxRank < widestRank ranks rank then .error (.rankTooLarge (widestRank ranks rank))
    else
      let (stem, digits) := splitArity base
      match digits.map arity? with
      | some none => .error (.invalid name)
      | arity =>
        if stem == voidName then .error .void
        else if !CSharp.isDottedName (dotted stem) then .error (.invalid name)
        else if arity.any (· != some arguments) then .error (.invalid name)
        else .ok ()

mutual

def check : TypeRef → Except Fault Unit
  | ⟨name, arguments, rank⟩ => do
    checkNode name arguments.length rank
    checkAll arguments

def checkAll : List TypeRef → Except Fault Unit
  | [] => .ok ()
  | type :: others => do
    check type
    checkAll others

end

end ContractProxy.TypeRef
