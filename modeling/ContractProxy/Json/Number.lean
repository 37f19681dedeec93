import ContractProxy.Text.Basic

/-!
What kind of number a JSON spelling stands for. Integers of 64 bits are kept; all other numbers are
rounded reals, whose value nothing here needs, and a real beyond the range of double precision is
refused.
-/

set_option autoImplicit false

namespace ContractProxy.Json

inductive Number where
  | natural (value : Nat)
  | negative (magnitude : Nat)
  | real
  deriving DecidableEq, Repr

namespace Number

/-- Rounds to 53 significant bits, a tie to the even neighbour. -/
def round53 (n : Nat) : Nat :=
  if n < Nat.pow 2 53 then n
  else
    let unit := Nat.pow 2 (n.log2 - 52)
    let quotient := n / unit
    let rest := 2 * (n % unit)
    let up := unit < rest || (rest == unit && quotient % 2 == 1)
    (if up then quotient + 1 else quotient) * unit

/-- The product of the two rounded factors rounds beyond the largest double. -/
def overflows (significand exponent : Nat) : Bool :=
  Nat.pow 2 1024 - Nat.pow 2 970 ≤ round53 significand * round53 (Nat.pow 10 exponent)

def scaled? (significand : Nat) (exponent : Int) : Option Number :=
  if exponent < 0 || significand == 0 then some .real
  else if 308 < exponent || overflows significand exponent.toNat then none
  else some .real

def digit (c : Char) : Nat := c.toNat - 48

def wordLimit : Nat := UInt64.size

/-- The digits before the point: the significand keeps those that fit a word, and each further one
counts as a power of ten. -/
def wholeDigits (spelling : Text) : Nat × Nat :=
  spelling.foldl (fun (significand, dropped) c =>
    if dropped == 0 && significand * 10 + digit c < wordLimit then (significand * 10 + digit c, 0)
    else (significand, dropped + 1)) (0, 0)

/-- The digits after the point extend the significand up to the first that does not fit; the
second part counts those that did. -/
def fractionDigits (significand : Nat) (spelling : Text) : Nat × Nat :=
  let (significand, places, _) := spelling.foldl (fun (significand, places, full) c =>
    if !full && significand * 10 + digit c < wordLimit then
      (significand * 10 + digit c, places + 1, false)
    else (significand, places, true)) (significand, 0, false)
  (significand, places)

/-- The digits of an exponent; none if the value does not fit 31 bits. -/
def exponentDigits? (spelling : Text) : Option Nat :=
  spelling.foldl (fun value? c => value?.bind fun value =>
    if value * 10 + digit c < Nat.pow 2 31 then some (value * 10 + digit c) else none) (some 0)

def withExponent? (significand : Nat) (exponent : Int) : Text → Option Number
  | [] => scaled? significand exponent
  | _ :: rest =>
    let (minus, digits) := match rest with
      | '-' :: digits => (true, digits)
      | '+' :: digits => (false, digits)
      | digits => (false, digits)
    match exponentDigits? digits with
    | some value => scaled? significand (if minus then exponent - value else exponent + value)
    | none => if significand == 0 || minus then some .real else none

def ofSpelling? (spelling : Text) : Option Number :=
  let (minus, body) := match spelling with
    | '-' :: body => (true, body)
    | body => (false, body)
  let (significand, dropped) := wholeDigits (body.takeWhile Char.isDigit)
  match body.dropWhile Char.isDigit with
  | [] =>
    if dropped != 0 then scaled? significand dropped
    else if !minus then some (.natural significand)
    else if significand == 0 || Nat.pow 2 63 < significand then some .real
    else some (.negative significand)
  | '.' :: rest =>
    let (significand, places) := fractionDigits significand (rest.takeWhile Char.isDigit)
    withExponent? significand ((dropped : Int) - places) (rest.dropWhile Char.isDigit)
  | rest => withExponent? significand dropped rest

example : ofSpelling? "1e308" = some .real ∧ ofSpelling? "1e309" = none ∧
    ofSpelling? "1.8e308" = none ∧ ofSpelling? "-0" = some .real ∧
    ofSpelling? "18446744073709551615" = some (.natural 18446744073709551615) := by decide +kernel

end Number

end ContractProxy.Json
