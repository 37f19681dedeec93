import ContractProxy.Toml.Statement

/-!
Whole TOML documents. Pairs belong to the header before them, or to the document itself.
-/

set_option autoImplicit false

namespace ContractProxy.Toml

structure Section where
  root : Toml
  header : Key

namespace Section

def start : Section := ⟨.table .header [], []⟩

def openAt (document : Section) (key : Key) (change : Text → Toml → Option Toml) :
    Option Section := do
  let part ← key.getLast?
  let root ← changeAt false (change part) key.dropLast document.root
  some ⟨root, key⟩

def add (document : Section) : Statement → Option Section
  | .header key => document.openAt key openTable
  | .element key => document.openAt key openElement
  | .pair key value => do
    let root ← changeAt false (insert? key value) document.header document.root
    some { document with root := root }

end Section

def ofText? (t : Text) : Option Toml := do
  let document ← (← statements (← scan t)).foldlM Section.add Section.start
  some document.root

end ContractProxy.Toml
