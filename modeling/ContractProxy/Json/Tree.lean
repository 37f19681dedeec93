import ContractProxy.Json.Number
import ContractProxy.Json.Token

/-!
JSON documents as far as they can be read. A text that breaks off leaves its open containers
marked as not whole, so a reader meets the faults of a document in the order of the text. The name
of a member is kept as a value, because the text may break off at a name that is no string. Reading
is lenient; `readable` says which values are JSON in full.
-/

set_option autoImplicit false

namespace ContractProxy

inductive Json where
  | null
  | bool (value : Bool)
  | number (spelling : Text)
  | string (content : Option Text)
  | array (items : List Json) (whole : Bool)
  | object (members : List (Json × Json)) (whole : Bool)
  | absent
  deriving Repr

namespace Json

structure Document where
  value : Json
  clean : Bool
  deriving Repr

/-- A container in progress; its parts so far are in reverse. A member waits for its value. -/
inductive Frame where
  | array (items : List Json)
  | object (members : List (Json × Json))
  | member (members : List (Json × Json)) (key : Json)
  deriving Repr

inductive Awaited where
  | value | firstItem | firstKey | key | colon | separator
  deriving DecidableEq, Repr

/-- Closes every open container around a value where the text breaks off. -/
def closeAround : Json → List Frame → Json
  | value, [] => value
  | value, .array items :: outer => closeAround (.array (value :: items).reverse false) outer
  | _, .object members :: outer => closeAround (.object members.reverse false) outer
  | value, .member members key :: outer =>
    closeAround (.object ((key, value) :: members).reverse false) outer

def breakOff : List Frame → Document
  | [] => ⟨.absent, false⟩
  | .array items :: outer => ⟨closeAround (.array items.reverse false) outer, false⟩
  | .object members :: outer => ⟨closeAround (.object members.reverse false) outer, false⟩
  | .member members key :: outer =>
    ⟨closeAround (.object ((key, .absent) :: members).reverse false) outer, false⟩

def place (value : Json) : List Frame → List Frame
  | .array items :: outer => .array (value :: items) :: outer
  | .member members key :: outer => .object ((key, value) :: members) :: outer
  | frames => frames

def Token.scalar? : Token → Option Json
  | .null => some .null
  | .bool value => some (.bool value)
  | .number spelling => some (.number spelling)
  | .string content => some (.string content)
  | _ => none

def Token.start? : Token → Option Json
  | .openBracket => some (.array [] false)
  | .openBrace => some (.object [] false)
  | token => token.scalar?

def build : Awaited → List Frame → List Token → Document
  | _, frames, [] => breakOff frames
  | awaited, frames, token :: rest =>
    let finish (value : Json) (outer : List Frame) : Document :=
      if outer.isEmpty then ⟨value, rest.isEmpty⟩ else build .separator (place value outer) rest
    match awaited, token, frames with
    | .firstItem, .closeBracket, .array items :: outer => finish (.array items.reverse true) outer
    | .separator, .closeBracket, .array items :: outer => finish (.array items.reverse true) outer
    | .separator, .comma, .array _ :: _ => build .value frames rest
    | .firstKey, .closeBrace, .object members :: outer =>
      finish (.object members.reverse true) outer
    | .separator, .closeBrace, .object members :: outer =>
      finish (.object members.reverse true) outer
    | .separator, .comma, .object _ :: _ => build .key frames rest
    | .firstKey, .string key, .object members :: outer =>
      build .colon (.member members (.string key) :: outer) rest
    | .key, .string key, .object members :: outer =>
      build .colon (.member members (.string key) :: outer) rest
    | .firstKey, _, .object _ :: outer =>
      match token.start? with
      | some key => breakOff (.member [] key :: outer)
      | none => breakOff frames
    | .colon, .colon, _ => build .value frames rest
    | .value, .openBracket, _ => build .firstItem (.array [] :: frames) rest
    | .firstItem, .openBracket, _ => build .firstItem (.array [] :: frames) rest
    | .value, .openBrace, _ => build .firstKey (.object [] :: frames) rest
    | .firstItem, .openBrace, _ => build .firstKey (.object [] :: frames) rest
    | .value, _, _ =>
      match token.scalar? with
      | some value => finish value frames
      | none => breakOff frames
    | .firstItem, _, _ =>
      match token.scalar? with
      | some value => finish value frames
      | none => breakOff frames
    | _, _, _ => breakOff frames

def read (bytes : Bytes) : Document :=
  build .value [] (scan bytes)

def isWhole : Json → Bool
  | .array _ whole => whole
  | .object _ whole => whole
  | .absent => false
  | _ => true

mutual

/-- The value is JSON in full and opens at most `depth` containers at once: strings are text,
numbers are in range, nothing breaks off. -/
def readable (depth : Nat) : Json → Bool
  | .null => true
  | .bool _ => true
  | .number spelling => (Number.ofSpelling? spelling).isSome
  | .string content => content.isSome
  | .array items whole => 0 < depth && (readableItems (depth - 1) items && whole)
  | .object members whole => 0 < depth && (readableMembers (depth - 1) members && whole)
  | .absent => false

def readableItems (depth : Nat) : List Json → Bool
  | [] => true
  | item :: rest => readable depth item && readableItems depth rest

def readableMembers (depth : Nat) : List (Json × Json) → Bool
  | [] => true
  | (key, value) :: rest =>
    readable depth key && (readable depth value && readableMembers depth rest)

end

end Json

end ContractProxy
