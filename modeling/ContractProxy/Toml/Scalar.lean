import ContractProxy.Toml.Basic
import ContractProxy.Toml.Moment

/-!
Values that are written without quotes: truth values, integers, real numbers, dates and times.
-/

set_option autoImplicit false

namespace ContractProxy.Toml

/-- The digits of a run in which single underscores may stand between digits. -/
def digits? (isDigit : Char → Bool) (t : Text) : Option Text :=
  let runs := t.splitOn '_'
  if runs.all fun run => !run.isEmpty && run.all isDigit then some runs.flatten else none

def wholePart? (t : Text) : Option Text := do
  let digits ← digits? Char.isDigit t
  if 1 < digits.length && digits.head? == some '0' then none else some digits

def valueTo (base : Nat) (digits : Text) : Nat :=
  digits.foldl (fun value c => base * value + (Text.hexDigit? c).getD 0) 0

def base? : Char → Option Nat
  | 'x' => some 16
  | 'o' => some 8
  | 'b' => some 2
  | _ => none

/-- An integer to another base than ten, which has no sign. -/
def basedInteger? : Text → Option Int
  | '0' :: mark :: t => do
    let base ← base? mark
    let digits ← digits? (fun c => (Text.hexDigit? c).any (· < base)) t
    some (valueTo base digits)
  | _ => none

def splitSign : Text → Bool × Text
  | '-' :: t => (true, t)
  | '+' :: t => (false, t)
  | t => (false, t)

def signed (negative : Bool) (magnitude : Nat) : Int :=
  if negative then -magnitude else magnitude

def decimalInteger? (t : Text) : Option Int := do
  let (negative, t) := splitSign t
  let digits ← wholePart? t
  some (signed negative (valueTo 10 digits))

def cutAtMark (isMark : Char → Bool) (t : Text) : Text × Option Text :=
  match t.dropWhile (!isMark ·) with
  | _ :: rest => (t.takeWhile (!isMark ·), some rest)
  | [] => (t, none)

def exponent? : Option Text → Option Int
  | none => some 0
  | some t => do
    let (negative, t) := splitSign t
    let digits ← digits? Char.isDigit t
    some (signed negative (valueTo 10 digits))

def fraction? : Option Text → Option Text
  | none => some []
  | some t => digits? Char.isDigit t

def finiteReal? (t : Text) : Option Real := do
  let (_, t) := splitSign t
  let (mantissa, power) := cutAtMark (fun c => c == 'e' || c == 'E') t
  let (whole, places) := cutAtMark (· == '.') mantissa
  if power.isNone && places.isNone then none
  else
    let whole ← wholePart? whole
    let places ← fraction? places
    let exponent ← exponent? power
    some (.finite (valueTo 10 (whole ++ places)) (exponent - places.length))

def isSpecialReal (t : Text) : Bool :=
  let (_, t) := splitSign t
  t == "inf" || t == "nan"

def ofSpelling? (spelling : Text) : Option Toml :=
  if spelling == "true" then some (.bool true)
  else if spelling == "false" then some (.bool false)
  else if isSpecialReal spelling then some (.real .special)
  else if isMoment spelling then some (.moment spelling)
  else
    match basedInteger? spelling, decimalInteger? spelling with
    | some value, _ => some (.integer value)
    | _, some value => some (.integer value)
    | _, _ => (finiteReal? spelling).map .real

/-- The least magnitude that rounds beyond the largest number of double precision. -/
def overflowBound : Nat := Nat.pow 2 1024 - Nat.pow 2 970

/-- A number with at most 308 digits before the point is in range, and one with 310 is not. -/
def Real.overflows : Real → Bool
  | .special => false
  | .finite significand exponent =>
    let places : Int := (Text.decimal significand).length + exponent
    if significand == 0 || places ≤ 308 then false
    else if 310 ≤ places then true
    else overflowBound * Nat.pow 10 (-exponent).toNat ≤ significand * Nat.pow 10 exponent.toNat

end ContractProxy.Toml
