import ContractProxy.Text.Basic

/-!
The tokens of a JSON text. The scanner reads bytes one at a time. It is lenient where a reader may
pass over a value: a string that is no text (a lone surrogate, bytes that are not UTF-8) is still a
token. It stops at the first byte that no token can hold.
-/

set_option autoImplicit false

namespace ContractProxy.Json

inductive Token where
  | openBrace | closeBrace | openBracket | closeBracket | comma | colon
  | null
  | bool (value : Bool)
  | number (spelling : Text)
  | string (content : Option Text)
  | unreadable
  deriving DecidableEq, Repr

inductive NumberStage where
  | minus | zero | integer | point | fraction | exponentMark | exponentSign | exponent
  deriving DecidableEq, Repr

inductive NumberStep where
  | more (stage : NumberStage)
  | ends
  | broken

def NumberStage.step (stage : NumberStage) (c : Char) : NumberStep :=
  let mark := c == 'e' || c == 'E'
  match stage with
  | .minus => if c == '0' then .more .zero else if c.isDigit then .more .integer else .broken
  | .zero =>
    if c.isDigit then .broken else if c == '.' then .more .point
    else if mark then .more .exponentMark else .ends
  | .integer =>
    if c.isDigit then .more .integer else if c == '.' then .more .point
    else if mark then .more .exponentMark else .ends
  | .point => if c.isDigit then .more .fraction else .broken
  | .fraction =>
    if c.isDigit then .more .fraction else if mark then .more .exponentMark else .ends
  | .exponentMark =>
    if c == '+' || c == '-' then .more .exponentSign
    else if c.isDigit then .more .exponent else .broken
  | .exponentSign => if c.isDigit then .more .exponent else .broken
  | .exponent => if c.isDigit then .more .exponent else .ends

/-- A number may end after any digit. -/
def NumberStage.isComplete : NumberStage → Bool
  | .zero | .integer | .fraction | .exponent => true
  | _ => false

/-- A string in progress: its bytes so far, the last first, a leading surrogate that waits for its
partner, and whether every surrogate so far has found one. -/
structure StringScan where
  bytes : Bytes
  leading : Option Nat
  paired : Bool
  deriving Repr

namespace StringScan

def start : StringScan := ⟨[], none, true⟩

/-- A leading surrogate that is followed by anything else stays alone. -/
def settle (s : StringScan) : StringScan :=
  match s.leading with
  | none => s
  | some _ => ⟨s.bytes, none, false⟩

def pushByte (s : StringScan) (b : UInt8) : StringScan :=
  let s := s.settle
  ⟨b :: s.bytes, none, s.paired⟩

def pushChar (s : StringScan) (c : Char) : StringScan :=
  let s := s.settle
  ⟨(String.utf8EncodeChar c).reverse ++ s.bytes, none, s.paired⟩

def isLeading (unit : Nat) : Bool := 0xD800 ≤ unit && unit < 0xDC00

def isTrailing (unit : Nat) : Bool := 0xDC00 ≤ unit && unit < 0xE000

def pushUnit (s : StringScan) (unit : Nat) : StringScan :=
  match s.leading, isTrailing unit with
  | some leading, true =>
    let c := Char.ofNat (0x10000 + (leading - 0xD800) * 0x400 + (unit - 0xDC00))
    ⟨(String.utf8EncodeChar c).reverse ++ s.bytes, none, s.paired⟩
  | none, true => ⟨s.bytes, none, false⟩
  | _, false =>
    if isLeading unit then
      let s := s.settle
      ⟨s.bytes, some unit, s.paired⟩
    else s.pushChar (Char.ofNat unit)

def content (s : StringScan) : Option Text :=
  let s := s.settle
  if s.paired then Text.ofUtf8? s.bytes.reverse else none

end StringScan

inductive ScanState where
  | between
  | word (awaited : Text) (token : Token)
  | number (stage : NumberStage) (seen : Text)
  | string (s : StringScan)
  | escape (s : StringScan)
  | codeUnit (s : StringScan) (missing : Nat) (value : Nat)
  deriving Repr

namespace ScanState

def shortEscape? : Char → Option Char
  | '\"' => some '\"'
  | '\\' => some '\\'
  | '/' => some '/'
  | 'b' => some '\x08'
  | 'f' => some '\x0c'
  | 'n' => some '\n'
  | 'r' => some '\r'
  | 't' => some '\t'
  | _ => none

/-- One byte between tokens: the token it makes, if any, and the next state, if the byte can be
read at all. -/
def stepBetween (c : Char) : Option Token × Option ScanState :=
  match c with
  | ' ' | '\n' | '\t' | '\r' => (none, some between)
  | '\x7b' => (some .openBrace, some between)
  | '\x7d' => (some .closeBrace, some between)
  | '[' => (some .openBracket, some between)
  | ']' => (some .closeBracket, some between)
  | ',' => (some .comma, some between)
  | ':' => (some .colon, some between)
  | '\"' => (none, some (string .start))
  | 't' => (none, some (word "rue" (.bool true)))
  | 'f' => (none, some (word "alse" (.bool false)))
  | 'n' => (none, some (word "ull" .null))
  | '-' => (none, some (number .minus ['-']))
  | '0' => (none, some (number .zero ['0']))
  | _ => if c.isDigit then (none, some (number .integer [c])) else (none, none)

def stepString (s : StringScan) (b : UInt8) : Option Token × Option ScanState :=
  if b == 34 then (some (.string s.content), some between)
  else if b == 92 then (none, some (escape s))
  else if b < 32 then (none, none)
  else (none, some (string (s.pushByte b)))

def stepEscape (s : StringScan) (c : Char) : Option ScanState :=
  if c == 'u' then some (codeUnit s 4 0)
  else (shortEscape? c).map fun meant => string (s.pushChar meant)

def stepCodeUnit (s : StringScan) (missing value : Nat) (c : Char) : Option ScanState :=
  (Text.hexDigit? c).map fun digit =>
    if missing ≤ 1 then string (s.pushUnit (16 * value + digit))
    else codeUnit s (missing - 1) (16 * value + digit)

end ScanState

open ScanState in
/-- Scans the bytes that are left; `done` holds the tokens before them, the last first. -/
def scanFrom : ScanState → List Token → Bytes → List Token
  | .between, done, [] => done.reverse
  | .number stage seen, done, [] =>
    ((if stage.isComplete then .number seen.reverse else .unreadable) :: done).reverse
  | _, done, [] => (.unreadable :: done).reverse
  | state, done, b :: rest =>
    let c := Char.ofNat b.toNat
    match state with
    | .between =>
      match stepBetween c with
      | (token, some next) => scanFrom next (token.toList ++ done) rest
      | (_, none) => (.unreadable :: done).reverse
    | .word [] _ => (.unreadable :: done).reverse
    | .word (awaited :: more) token =>
      if c != awaited then (.unreadable :: done).reverse
      else if more.isEmpty then scanFrom .between (token :: done) rest
      else scanFrom (.word more token) done rest
    | .number stage seen =>
      match stage.step c with
      | .more stage => scanFrom (.number stage (c :: seen)) done rest
      | .broken => (.unreadable :: done).reverse
      | .ends =>
        match stepBetween c with
        | (token, some next) => scanFrom next (token.toList ++ .number seen.reverse :: done) rest
        | (_, none) => (.unreadable :: .number seen.reverse :: done).reverse
    | .string s =>
      match stepString s b with
      | (token, some next) => scanFrom next (token.toList ++ done) rest
      | (_, none) => (.unreadable :: done).reverse
    | .escape s =>
      match stepEscape s c with
      | some next => scanFrom next done rest
      | none => (.unreadable :: done).reverse
    | .codeUnit s missing value =>
      match stepCodeUnit s missing value c with
      | some next => scanFrom next done rest
      | none => (.unreadable :: done).reverse

/-- The tokens of a JSON text; the last one is `unreadable` if the scan stopped early. -/
def scan (bytes : Bytes) : List Token :=
  scanFrom .between [] bytes

example : scan (Text.utf8 "[-1.5e3, \"a\\u00e9\"]") =
    [.openBracket, .number "-1.5e3", .comma, .string (some ['a', 'é']), .closeBracket] := by
  decide +kernel

end ContractProxy.Json
