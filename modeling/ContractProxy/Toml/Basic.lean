import ContractProxy.Text.Keyed

/-!
Values of TOML documents. A table remembers how it came to be, because that decides what may still
be put into it; its entries are in ascending order of their keys.
-/

set_option autoImplicit false

namespace ContractProxy

/-- How a table came to be: by a header of its own (the document itself counts as one), on the way
to a longer header, on the way of a dotted key, or as a value. -/
inductive Toml.Origin where
  | header | implied | dotted | inline
  deriving DecidableEq, Repr

/-- A real number; infinities and what is no number are special. -/
inductive Toml.Real where
  | finite (significand : Nat) (exponent : Int)
  | special
  deriving DecidableEq, Repr

/-- A list of tables is never empty; `earlier` holds the tables before the last one, the nearest
first. -/
inductive Toml where
  | text (content : Text)
  | bool (value : Bool)
  | integer (value : Int)
  | real (value : Toml.Real)
  | moment (spelling : Text)
  | array (items : List Toml)
  | tables (last : Toml) (earlier : List Toml)
  | table (origin : Toml.Origin) (entries : List (Text × Toml))
  deriving Repr

namespace Toml

abbrev Key := List Text

abbrev Entries := Keyed Toml

/-- A dotted key passes only tables that no header and no value has defined. -/
def Origin.isOpen : Origin → Bool
  | .implied | .dotted => true
  | .header | .inline => false

/-- Changes the table at a path below a table. Tables that are missing on the way are made; a list
of tables stands for its last element. -/
def changeAt (dotted : Bool) (change : Toml → Option Toml) : Key → Toml → Option Toml
  | [], here => change here
  | part :: path, .table origin entries =>
    match entries.lookup part with
    | none => do
      let made ← changeAt dotted change path (.table (if dotted then .dotted else .implied) [])
      some (.table origin (Keyed.put part made entries))
    | some (.tables last earlier) => do
      let changed ← changeAt dotted change path last
      some (.table origin (Keyed.put part (.tables changed earlier) entries))
    | some (.table origin' entries') =>
      if origin' == .inline || (dotted && !origin'.isOpen) then none
      else do
        let changed ← changeAt dotted change path (.table origin' entries')
        some (.table origin (Keyed.put part changed entries))
    | some _ => none
  | _ :: _, _ => none

/-- Adds a new entry to a table. A dotted key has to end in a table that dotted keys have made, any
other key in a table that they have not. -/
def addEntry (dotted : Bool) (part : Text) (value : Toml) : Toml → Option Toml
  | .table origin entries =>
    if (origin == .dotted) != dotted then none
    else if (entries.lookup part).isSome then none
    else some (.table origin (Keyed.put part value entries))
  | _ => none

def insert? (key : Key) (value : Toml) (into : Toml) : Option Toml := do
  let part ← key.getLast?
  let path := key.dropLast
  changeAt true (addEntry (!path.isEmpty) part value) path into

def openTable (part : Text) : Toml → Option Toml
  | .table origin entries =>
    match entries.lookup part with
    | none => some (.table origin (Keyed.put part (.table .header []) entries))
    | some (.table .implied below) =>
      some (.table origin (Keyed.put part (.table .header below) entries))
    | some _ => none
  | _ => none

def openElement (part : Text) : Toml → Option Toml
  | .table origin entries =>
    match entries.lookup part with
    | none => some (.table origin (Keyed.put part (.tables (.table .header []) []) entries))
    | some (.tables last earlier) =>
      some (.table origin (Keyed.put part (.tables (.table .header []) (last :: earlier)) entries))
    | some _ => none
  | _ => none

end Toml

end ContractProxy
