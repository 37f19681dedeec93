import ContractProxy.Text.Blank

/-!
References to types as signatures write them: a name, type arguments and the rank of the outermost
array, zero for no array. Inner array suffixes of a jagged array stay in the name.
-/

set_option autoImplicit false

namespace ContractProxy

structure TypeRef where
  name : Text
  arguments : List TypeRef
  rank : UInt32
  deriving Repr

namespace TypeRef

mutual

def decEq : (s t : TypeRef) → Decidable (s = t)
  | ⟨name, arguments, rank⟩, ⟨name', arguments', rank'⟩ =>
    match decEqAll arguments arguments' with
    | isTrue h => decidable_of_iff (name = name' ∧ rank = rank') (by simp [h])
    | isFalse h => isFalse (by simp [h])

def decEqAll : (s t : List TypeRef) → Decidable (s = t)
  | [], [] => isTrue rfl
  | [], _ :: _ => isFalse (by simp)
  | _ :: _, [] => isFalse (by simp)
  | type :: others, type' :: others' =>
    match decEq type type', decEqAll others others' with
    | isTrue h, isTrue g => isTrue (by rw [h, g])
    | isFalse h, _ => isFalse (by simp [h])
    | _, isFalse g => isFalse (by simp [g])

end

instance : DecidableEq TypeRef := decEq

def named (name : Text) : TypeRef :=
  ⟨name, [], 0⟩

def generic (name : Text) (arguments : List TypeRef) : TypeRef :=
  ⟨name, arguments, 0⟩

def voidName : Text :=
  "System.Void"

def isVoid (type : TypeRef) : Bool :=
  type.rank == 0 && type.arguments.isEmpty && type.name == voidName

/-- The suffix of an array of the given rank: brackets around one comma less than the rank. -/
def arraySuffix (rank : Nat) : Text :=
  '[' :: List.replicate (rank - 1) ',' ++ "]"

/-- The word that counts commas has 32 bits. A count that does not fit becomes the largest but one,
and the rank is one more than the count in that arithmetic. -/
def rankOfCommas (commas : Nat) : UInt32 :=
  (if commas < UInt32.size then UInt32.ofNat commas else 4294967294) + 1

/-- Takes the outermost array suffix off a text given in reverse: the reversed name and the number
of commas. The name must not be empty. -/
def outerSuffix? : Text → Option (Text × Nat)
  | ']' :: rest =>
    match rest.dropWhile (· == ',') with
    | '[' :: name =>
      if name.isEmpty then none else some (name, (rest.takeWhile (· == ',')).length)
    | _ => none
  | _ => none

/-- Reads a plain spelling. One array suffix, the outermost, is folded into the rank. -/
def ofSpelling (spelling : Text) : TypeRef :=
  match outerSuffix? (Text.trim spelling).reverse with
  | some (name, commas) => ⟨name.reverse, [], rankOfCommas commas⟩
  | none => named (Text.trim spelling)

/-- Takes all array suffixes off a text given in reverse. `inside` counts the commas of the suffix
that is being read; `ranks` holds those already read, the leftmost first. -/
def peelSuffixes : Option Nat → List Nat → Text → Option (Text × List Nat)
  | none, ranks, ']' :: rest => peelSuffixes (some 0) ranks rest
  | none, ranks, base => some (base.reverse, ranks)
  | some commas, ranks, ',' :: rest => peelSuffixes (some (commas + 1)) ranks rest
  | some commas, ranks, '[' :: rest => peelSuffixes none ((commas + 1) :: ranks) rest
  | some _, _, _ => none

/-- The name without its array suffixes and their ranks from left to right; none if the name ends
in a bracket group that is no array suffix. -/
def arrayParts (type : TypeRef) : Option (Text × List Nat) :=
  peelSuffixes none [] type.name.reverse

end TypeRef

end ContractProxy
