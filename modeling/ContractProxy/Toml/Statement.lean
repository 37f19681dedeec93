import ContractProxy.Toml.Scalar
import ContractProxy.Toml.Token

/-!
The statements of a TOML document: headers of tables, headers of list elements, and pairs of a key
and a value. Values are built on a stack of the containers that are open around them.
-/

set_option autoImplicit false

namespace ContractProxy.Toml

inductive Statement where
  | header (key : Key)
  | element (key : Key)
  | pair (key : Key) (value : Toml)
  deriving Repr

/-- What waits for a value: the pair of a line, an array with its items in reverse, or a key of an
inline table. An inline table between its members waits for none. -/
inductive Frame where
  | pair (key : Key)
  | array (items : List Toml)
  | member (into : Toml) (key : Key)
  | members (into : Toml)
  deriving Repr

inductive KeyUse where
  | header | element | pair | member
  deriving DecidableEq, Repr

inductive KeyStage where
  | part | link | ending
  deriving DecidableEq, Repr

inductive Stage where
  | line | ended
  | opening | closing (parts : Key)
  | key (use : KeyUse) (parts : Key) (stage : KeyStage)
  | value
  | scalar (spelling : Text)
  | item | itemEnd
  | member | memberEnd
  deriving Repr

structure Progress where
  stage : Stage
  frames : List Frame
  done : List Statement
  deriving Repr

namespace Progress

def nestingLimit : Nat := 80

def atStage (p : Progress) (stage : Stage) : Option Progress :=
  some { p with stage := stage }

def isBareKey (part : Text) : Bool :=
  part.all fun c => c.isAlphanum || c == '_' || c == '-'

/-- The part of a key that a token is. Strings over several lines are no keys. -/
def keyPart? : Token → Option Text
  | .bare spelling => if isBareKey spelling then some spelling else none
  | .quoted content false => some content
  | _ => none

/-- Reads a token as the first or next part of a key; `parts` holds those before it in reverse. -/
def addPart (p : Progress) (use : KeyUse) (parts : Key) (token : Token) : Option Progress := do
  let part ← keyPart? token
  p.atStage (.key use (part :: parts) .link)

def conclude (p : Progress) (statement : Statement) : Option Progress :=
  some ⟨.ended, [], statement :: p.done⟩

def place (p : Progress) (value : Toml) : Option Progress :=
  match p.frames with
  | .pair key :: _ => p.conclude (.pair key value)
  | .array items :: outer =>
    some { p with stage := .itemEnd, frames := .array (value :: items) :: outer }
  | .member into key :: outer => do
    let into ← insert? key value into
    some { p with stage := .memberEnd, frames := .members into :: outer }
  | _ => none

/-- Opens a container. The pair around all of them takes a frame of its own. -/
def enter (p : Progress) (stage : Stage) (frame : Frame) : Option Progress :=
  if p.frames.length ≤ nestingLimit then
    some { p with stage := stage, frames := frame :: p.frames }
  else none

def leaveArray (p : Progress) : Option Progress :=
  match p.frames with
  | .array items :: outer => place { p with frames := outer } (.array items.reverse)
  | _ => none

def leaveTable (p : Progress) : Option Progress :=
  match p.frames with
  | .members whole :: outer => place { p with frames := outer } whole
  | _ => none

def stepValue (p : Progress) : Token → Option Progress
  | .openBracket => p.enter .item (.array [])
  | .openBrace => p.enter .member (.members (.table .inline []))
  | .quoted content _ => p.place (.text content)
  | .bare spelling => p.atStage (.scalar spelling)
  | .dot => p.atStage (.scalar ['.'])
  | _ => none

def endKey (p : Progress) (use : KeyUse) (parts : Key) : Option Progress :=
  match use, p.frames with
  | .pair, _ => some { p with stage := .value, frames := [.pair parts.reverse] }
  | .member, .members into :: outer =>
    some { p with stage := .value, frames := .member into parts.reverse :: outer }
  | _, _ => none

def stepLink (p : Progress) (use : KeyUse) (parts : Key) (token : Token) : Option Progress :=
  match token, use with
  | .blank, _ => some p
  | .dot, _ => p.atStage (.key use parts .part)
  | .equals, _ => p.endKey use parts
  | .closeBracket, .header => p.conclude (.header parts.reverse)
  | .closeBracket, .element => p.atStage (.closing parts)
  | .newline, .member => p.atStage (.key use parts .ending)
  | _, _ => none

def inMember (p : Progress) : Bool :=
  match p.frames with
  | .member .. :: _ => true
  | _ => false

def advance (p : Progress) (token : Token) : Option Progress :=
  match p.stage, token with
  | .line, .blank => some p
  | .line, .newline => some p
  | .line, .openBracket => p.atStage .opening
  | .line, _ => p.addPart .pair [] token
  | .ended, .blank => some p
  | .ended, .newline => p.atStage .line
  | .opening, .openBracket => p.atStage (.key .element [] .part)
  | .opening, .blank => p.atStage (.key .header [] .part)
  | .opening, _ => p.addPart .header [] token
  | .closing parts, .closeBracket => p.conclude (.element parts.reverse)
  | .key _ _ .part, .blank => some p
  | .key use parts .part, _ => p.addPart use parts token
  | .key use parts .link, _ => p.stepLink use parts token
  | .key _ _ .ending, .blank => some p
  | .key _ _ .ending, .newline => some p
  | .key use parts .ending, .equals => p.endKey use parts
  | .value, .blank => some p
  | .value, .newline => if p.inMember then some p else none
  | .value, _ => p.stepValue token
  | .item, .blank => some p
  | .item, .newline => some p
  | .item, .closeBracket => p.leaveArray
  | .item, _ => p.stepValue token
  | .itemEnd, .blank => some p
  | .itemEnd, .newline => some p
  | .itemEnd, .comma => p.atStage .item
  | .itemEnd, .closeBracket => p.leaveArray
  | .member, .blank => some p
  | .member, .newline => some p
  | .member, .closeBrace => p.leaveTable
  | .member, _ => p.addPart .member [] token
  | .memberEnd, .blank => some p
  | .memberEnd, .newline => some p
  | .memberEnd, .comma => p.atStage .member
  | .memberEnd, .closeBrace => p.leaveTable
  | _, _ => none

def settle (p : Progress) : Option Progress :=
  match p.stage with
  | .scalar spelling => do p.place (← ofSpelling? spelling)
  | _ => some p

/-- One token. Bare tokens and dots in a row are one scalar. -/
def step (p : Progress) (token : Token) : Option Progress :=
  match p.stage, token with
  | .scalar spelling, .bare more => p.atStage (.scalar (spelling ++ more))
  | .scalar spelling, .dot => p.atStage (.scalar (spelling ++ "."))
  | _, _ => do (← p.settle).advance token

def finish (p : Progress) : Option (List Statement) := do
  let p ← p.settle
  match p.stage with
  | .line => some p.done.reverse
  | .ended => some p.done.reverse
  | _ => none

def start : Progress := ⟨.line, [], []⟩

end Progress

def statements (tokens : List Token) : Option (List Statement) :=
  (tokens.foldlM Progress.step Progress.start).bind Progress.finish

end ContractProxy.Toml
