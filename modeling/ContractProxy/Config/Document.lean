import ContractProxy.Config.Validity
import ContractProxy.File.Store
import ContractProxy.Json.Decoding
import ContractProxy.Toml.Document

/-!
Configurations as TOML documents. Sections hold nothing but texts, and only fields that are
declared. A section may also be an array, which fills the fields in their order.
-/

set_option autoImplicit false

namespace ContractProxy.Config

inductive ParseFault where
  | malformed
  | invalidType
  | unknownField (name : Text) (known : List Text)
  deriving DecidableEq, Repr

def expectation : List Text → Text
  | [] => "there are no fields"
  | [name] => "expected " ++ Json.tickedList [name]
  | [first, second] =>
    "expected " ++ Json.tickedList [first] ++ " or " ++ Json.tickedList [second]
  | names => "expected one of " ++ Json.tickedList names

/-- None for a text that is no TOML. -/
def ParseFault.message? : ParseFault → Option Text
  | .malformed => none
  | .invalidType => some "invalid type"
  | .unknownField name known =>
    some ("unknown field \x60" ++ name ++ "\x60, " ++ expectation known)

/-- The name by which a date or time is known where a section is wanted. -/
def momentName : Text := "$__toml_private_datetime"

/-- Integers that signed or unsigned words of 128 bits hold. -/
def isReadableInteger (value : Int) : Bool :=
  -Int.ofNat (Nat.pow 2 127) ≤ value && value < Int.ofNat (Nat.pow 2 128)

/-- The fault of a value of another type than the wanted one. A number is read before its type is
looked at. -/
def mismatch : Toml → ParseFault
  | .integer value => if isReadableInteger value then .invalidType else .malformed
  | .real value => if value.overflows then .malformed else .invalidType
  | _ => .invalidType

def asText : Toml → Except ParseFault Text
  | .text content => .ok content
  | other => .error (mismatch other)

abbrev SectionTexts := List (Text × Text)

def readEntries (known : List Text) : Toml.Entries → Except ParseFault SectionTexts
  | [] => .ok []
  | (key, value) :: rest =>
    if known.contains key then do
      let content ← asText value
      let others ← readEntries known rest
      .ok ((key, content) :: others)
    else .error (.unknownField key known)

/-- Gives the items of an array to the fields in their order; items beyond the fields are passed
over. -/
def readItems : List Text → List Toml → Except ParseFault SectionTexts
  | name :: names, item :: items => do
    let content ← asText item
    let others ← readItems names items
    .ok ((name, content) :: others)
  | _, _ => .ok []

def readSection (known : List Text) : Toml → Except ParseFault SectionTexts
  | .table _ entries => readEntries known entries
  | .array items => readItems known items
  | .tables last earlier => readItems known (last :: earlier).reverse
  | .moment _ => .error (.unknownField momentName known)
  | other => .error (mismatch other)

def generatorFields : List Text :=
  ["namespace", "source_assembly", "base_type", "facade_type", "token_type", "platform_type",
   "factory_method", "invoke_func", "invoke_action", "class_visibility"]

def namingFields : List Text := ["marker", "prefix"]

def outputFields : List Text := ["target_folder"]

def sections : List (Text × List Text) :=
  [("generator", generatorFields), ("naming", namingFields), ("output", outputFields)]

def SectionTexts.get? (texts : SectionTexts) (field : Text) : Option Text :=
  texts.lookup field

def withGenerator (config : Config) (texts : SectionTexts) : Config :=
  let get (field value : Text) : Text := (texts.get? field).getD value
  { config with
    scope := texts.get? "namespace"
    sourceAssembly := texts.get? "source_assembly"
    options :=
      { config.options with
        baseType := get "base_type" config.options.baseType
        facadeType := get "facade_type" config.options.facadeType
        tokenType := get "token_type" config.options.tokenType
        platformType := get "platform_type" config.options.platformType
        factoryMethod := get "factory_method" config.options.factoryMethod
        invokeFunc := get "invoke_func" config.options.invokeFunc
        invokeAction := get "invoke_action" config.options.invokeAction
        visibility := get "class_visibility" config.options.visibility } }

def withNaming (config : Config) (texts : SectionTexts) : Config :=
  { config with
    marker := (texts.get? "marker").getD config.marker
    lead := (texts.get? "prefix").getD config.lead }

def withOutput (config : Config) (texts : SectionTexts) : Config :=
  { config with targetFolder := texts.get? "target_folder" }

def withSection (config : Config) (name : Text) (texts : SectionTexts) : Config :=
  if name == "generator" then config.withGenerator texts
  else if name == "naming" then config.withNaming texts
  else config.withOutput texts

def readSections : Config → Toml.Entries → Except ParseFault Config
  | config, [] => .ok config
  | config, (name, value) :: rest =>
    match sections.lookup name with
    | some known => do
      let texts ← readSection known value
      readSections (config.withSection name texts) rest
    | none => .error (.unknownField name (sections.map Prod.fst))

/-- Fields that a document does not set have their defaults. -/
def ofText (t : Text) : Except ParseFault Config :=
  match Toml.ofText? t with
  | some (.table _ entries) => readSections default entries
  | _ => .error .malformed

def sizeLimit : Nat := 1024 * 1024

inductive Fault where
  | unreadable (path : Text) (fault : FileFault)
  | unparsable (fault : ParseFault)
  | invalid (cause : Invalidity)
  | location (fault : PathFault)
  deriving DecidableEq, Repr

def Fault.message : Fault → Text
  | .unreadable path fault => "config io error: " ++ path ++ ": " ++ fault.message
  | .unparsable fault => "config parse error: " ++ fault.message?.getD []
  | .invalid cause => "invalid config: " ++ cause.message
  | .location .tooLong => "invalid config: config path exceeds max length"
  | .location _ => "invalid config: config path component too long"

def ofBytes (bytes : Bytes) : Except Fault Config := do
  if sizeLimit < bytes.length then .error (.invalid .oversized)
  else
    match Text.ofUtf8? bytes with
    | none => .error (.invalid .notUtf8)
    | some t =>
      let config ← (ofText t).mapError .unparsable
      config.validate.mapError .invalid
      .ok config

end ContractProxy.Config
