import ContractProxy.Text.Basic

/-!
The tokens of a TOML text. Quoted strings become their contents; a bare token is a run of
characters that can be part of a key or of a value. A date and the time that follows it after one
blank are one token. A text with a fault in a string, in a comment or in a line ending has no
tokens.
-/

set_option autoImplicit false

namespace ContractProxy.Toml

inductive Token where
  | dot | equals | comma | openBracket | closeBracket | openBrace | closeBrace
  | blank | newline
  | bare (spelling : Text)
  | quoted (content : Text) (block : Bool)
  deriving DecidableEq, Repr

/-- A basic string has escapes, a literal string has none. -/
inductive Quote where
  | basic | literal
  deriving DecidableEq, Repr

def Quote.mark : Quote → Char
  | .basic => '\"'
  | .literal => '\''

inductive ScanState where
  | between | blank | comment | carriage
  | bare (seen : Text)
  | afterDate (seen : Text)
  | opened (quote : Quote) (twice : Bool)
  | line (quote : Quote) (seen : Text)
  | blockOpened (quote : Quote) (returned : Bool)
  | block (quote : Quote) (seen : Text) (marks : Nat)
  | blockCarriage (quote : Quote) (seen : Text)
  | escape (block : Bool) (seen : Text)
  | codePoint (block : Bool) (seen : Text) (missing value : Nat)
  | continuation (seen : Text) (ended : Bool)
  | continuationCarriage (seen : Text)
  deriving Repr

namespace ScanState

def isBlank (c : Char) : Bool :=
  c == ' ' || c == '\t'

/-- Characters that strings and comments may hold as they stand: all but control characters other
than the tab. -/
def isPlain (c : Char) : Bool :=
  c == '\t' || (32 ≤ c.toNat && c.toNat != 127)

def isDateShape (spelling : Text) : Bool :=
  spelling.map (fun c => if c.isDigit then '0' else c) == "0000-00-00"

abbrev Step := Option (List Token × ScanState)

def stepBetween (c : Char) : Step :=
  match c with
  | '.' => some ([.dot], between)
  | '=' => some ([.equals], between)
  | ',' => some ([.comma], between)
  | '[' => some ([.openBracket], between)
  | ']' => some ([.closeBracket], between)
  | '\x7b' => some ([.openBrace], between)
  | '\x7d' => some ([.closeBrace], between)
  | ' ' | '\t' => some ([.blank], blank)
  | '#' => some ([], comment)
  | '\n' => some ([.newline], between)
  | '\r' => some ([], carriage)
  | '\"' => some ([], opened .basic false)
  | '\'' => some ([], opened .literal false)
  | _ => some ([], bare [c])

def emit (tokens : List Token) (step : Step) : Step :=
  step.map fun (more, next) => (tokens ++ more, next)

def stepBlank (c : Char) : Step :=
  if isBlank c then some ([], blank) else stepBetween c

def stepComment (c : Char) : Step :=
  if c == '\n' || c == '\r' then stepBetween c
  else if isPlain c then some ([], comment) else none

def endsBare (c : Char) : Bool :=
  ".=,[]\x7b\x7d \t#\n\r\"'".toList.contains c

def stepBare (seen : Text) (c : Char) : Step :=
  if c == ' ' && isDateShape seen.reverse then some ([], afterDate seen)
  else if endsBare c then emit [.bare seen.reverse] (stepBetween c)
  else some ([], bare (c :: seen))

def stepAfterDate (seen : Text) (c : Char) : Step :=
  if c.isDigit then some ([], bare (c :: ' ' :: seen))
  else emit [.bare seen.reverse, .blank] (stepBlank c)

def stepLine (quote : Quote) (seen : Text) (c : Char) : Step :=
  if c == quote.mark then some ([.quoted seen.reverse false], between)
  else if quote == .basic && c == '\\' then some ([], escape false seen)
  else if isPlain c then some ([], line quote (c :: seen))
  else none

/-- Three marks end a block; one or two right before them belong to its contents. -/
def blockToken (quote : Quote) (seen : Text) (marks : Nat) : Token :=
  .quoted (List.replicate (marks - 3) quote.mark ++ seen).reverse true

def stepBlock (quote : Quote) (seen : Text) (marks : Nat) (c : Char) : Step :=
  if c == quote.mark then
    if marks < 4 then some ([], block quote seen (marks + 1))
    else some ([blockToken quote seen 5], between)
  else if 3 ≤ marks then emit [blockToken quote seen marks] (stepBetween c)
  else
    let seen := List.replicate marks quote.mark ++ seen
    if c == '\r' then some ([], blockCarriage quote seen)
    else if quote == .basic && c == '\\' then some ([], escape true seen)
    else if c == '\n' || isPlain c then some ([], block quote (c :: seen) 0)
    else none

/-- Two marks in a row are an empty string unless a third one makes them open a block. -/
def stepOpened (quote : Quote) (twice : Bool) (c : Char) : Step :=
  if c != quote.mark then
    if twice then emit [.quoted [] false] (stepBetween c) else stepLine quote [] c
  else if twice then some ([], blockOpened quote false)
  else some ([], opened quote true)

/-- A line ending right after the opening of a block is not part of it. -/
def stepBlockOpened (quote : Quote) (returned : Bool) (c : Char) : Step :=
  if c == '\n' then some ([], block quote [] 0)
  else if returned then none
  else if c == '\r' then some ([], blockOpened quote true)
  else stepBlock quote [] 0 c

def resume (inBlock : Bool) (seen : Text) : ScanState :=
  if inBlock then block .basic seen 0 else line .basic seen

def shortEscape? : Char → Option Char
  | '\"' => some '\"'
  | '\\' => some '\\'
  | 'b' => some '\x08'
  | 't' => some '\t'
  | 'n' => some '\n'
  | 'f' => some '\x0c'
  | 'r' => some '\r'
  | 'e' => some '\x1b'
  | _ => none

def codePointDigits? : Char → Option Nat
  | 'x' => some 2
  | 'u' => some 4
  | 'U' => some 8
  | _ => none

/-- A backslash at the end of a line drops the blanks and line endings behind it. -/
def stepContinuation (seen : Text) (ended : Bool) (c : Char) : Step :=
  if isBlank c then some ([], continuation seen ended)
  else if c == '\n' then some ([], continuation seen true)
  else if c == '\r' then some ([], continuationCarriage seen)
  else if ended then stepBlock .basic seen 0 c
  else none

def stepEscape (inBlock : Bool) (seen : Text) (c : Char) : Step :=
  match shortEscape? c, codePointDigits? c with
  | some meant, _ => some ([], resume inBlock (meant :: seen))
  | _, some digits => some ([], codePoint inBlock seen digits 0)
  | _, _ => if inBlock then stepContinuation seen false c else none

def stepCodePoint (inBlock : Bool) (seen : Text) (missing value : Nat) (c : Char) : Step := do
  let digit ← Text.hexDigit? c
  let value := 16 * value + digit
  if 1 < missing then some ([], codePoint inBlock seen (missing - 1) value)
  else if value.isValidChar then some ([], resume inBlock (Char.ofNat value :: seen))
  else none

/-- A carriage return has to be followed by a line feed. -/
def stepLineFeed (tokens : List Token) (next : ScanState) (c : Char) : Step :=
  if c == '\n' then some (tokens, next) else none

def step : ScanState → Char → Step
  | between, c => stepBetween c
  | blank, c => stepBlank c
  | comment, c => stepComment c
  | carriage, c => stepLineFeed [.newline] between c
  | bare seen, c => stepBare seen c
  | afterDate seen, c => stepAfterDate seen c
  | opened quote twice, c => stepOpened quote twice c
  | line quote seen, c => stepLine quote seen c
  | blockOpened quote returned, c => stepBlockOpened quote returned c
  | block quote seen marks, c => stepBlock quote seen marks c
  | blockCarriage quote seen, c => stepLineFeed [] (block quote ('\n' :: '\r' :: seen) 0) c
  | escape inBlock seen, c => stepEscape inBlock seen c
  | codePoint inBlock seen missing value, c => stepCodePoint inBlock seen missing value c
  | continuation seen ended, c => stepContinuation seen ended c
  | continuationCarriage seen, c => stepLineFeed [] (continuation seen true) c

def finish : ScanState → Option (List Token)
  | between | blank | comment => some []
  | bare seen | afterDate seen => some [.bare seen.reverse]
  | opened _ true => some [.quoted [] false]
  | block quote seen marks => if 3 ≤ marks then some [blockToken quote seen marks] else none
  | _ => none

end ScanState

/-- Scans the text that is left; `done` holds the tokens before it, the last first. -/
def scanFrom : ScanState → List Token → Text → Option (List Token)
  | state, done, [] => state.finish.map fun last => done.reverse ++ last
  | state, done, c :: rest =>
    match state.step c with
    | some (tokens, next) => scanFrom next (tokens.reverse ++ done) rest
    | none => none

def byteOrderMark : Char := '\ufeff'

/-- The tokens of a text; a byte order mark at its beginning does not count. -/
def scan : Text → Option (List Token)
  | c :: rest =>
    if c == byteOrderMark then scanFrom .between [] rest else scanFrom .between [] (c :: rest)
  | [] => some []

example : scan "a.'b' = 1 # c" =
    some [.bare ['a'], .dot, .quoted ['b'] false, .blank, .equals, .blank, .bare ['1'],
      .blank] := by
  decide +kernel

example : scan "\"\"\"a\"\"\"\"" = some [.quoted ['a', '\"'] true] := by decide +kernel

end ContractProxy.Toml
