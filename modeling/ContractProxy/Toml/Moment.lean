import ContractProxy.Text.Basic

/-!
Spellings of dates and times: a date, a time, or a date with a time and an optional offset. Seconds
may be left out.
-/

set_option autoImplicit false

namespace ContractProxy.Toml

namespace Moment

def valueOf (digits : Text) : Nat :=
  digits.foldl (fun value c => 10 * value + (c.toNat - 48)) 0

def number? (count : Nat) (t : Text) : Option (Nat × Text) :=
  let digits := t.take count
  if digits.length == count && digits.all Char.isDigit then some (valueOf digits, t.drop count)
  else none

def oneOf? (marks : Text) : Text → Option Text
  | c :: rest => if marks.contains c then some rest else none
  | [] => none

def isLeapYear (year : Nat) : Bool :=
  year % 4 == 0 && (year % 100 != 0 || year % 400 == 0)

def daysOfMonth (year month : Nat) : Nat :=
  if month == 2 then (if isLeapYear year then 29 else 28)
  else if [4, 6, 9, 11].contains month then 30
  else 31

def afterDate? (t : Text) : Option Text := do
  let (year, t) ← number? 4 t
  let (month, t) ← number? 2 (← oneOf? "-" t)
  let (day, t) ← number? 2 (← oneOf? "-" t)
  if 1 ≤ month && month ≤ 12 && 1 ≤ day && day ≤ daysOfMonth year month then some t else none

def afterMinutes? (t : Text) : Option Text := do
  let (hour, t) ← number? 2 t
  let (minute, t) ← number? 2 (← oneOf? ":" t)
  if hour ≤ 23 && minute ≤ 59 then some t else none

def afterFraction? (t : Text) : Option Text :=
  match t with
  | '.' :: c :: rest => if c.isDigit then some (rest.dropWhile Char.isDigit) else none
  | '.' :: [] => none
  | other => some other

/-- The rest of a text behind a time. A second may be a leap second. -/
def afterTime? (t : Text) : Option Text := do
  let t ← afterMinutes? t
  match t with
  | ':' :: t =>
    let (second, t) ← number? 2 t
    if second ≤ 60 then afterFraction? t else none
  | other => some other

/-- Nothing, the mark of universal time, or a signed number of hours and minutes. -/
def isOffset (t : Text) : Bool :=
  t.isEmpty || t == "Z" || t == "z" || ((oneOf? "+-" t).bind afterMinutes?) == some []

end Moment

def isMoment (spelling : Text) : Bool :=
  match Moment.afterDate? spelling with
  | some [] => true
  | some rest =>
    match (Moment.oneOf? "Tt " rest).bind Moment.afterTime? with
    | some offset => Moment.isOffset offset
    | none => false
  | none => Moment.afterTime? spelling == some []

example : (["1979-05-27T07:32:00.5-07:00", "1979-05-27 07:32Z", "1979-05-27", "07:32"].map
    fun spelling => isMoment spelling.toList) = [true, true, true, true] := by decide +kernel

example : (["1979-02-29", "1979-05-27T", "24:00", "07:32:00.", "07:32Z"].map
    fun spelling => isMoment spelling.toList) = [false, false, false, false, false] := by
  decide +kernel

end ContractProxy.Toml
