import ContractProxy.File.Store
import ContractProxy.Text.Order

/-!
File trees without links, and the file operations on them. A location is the list of names from the
root; a path is resolved name by name from the working directory, so the fault of a path is that of
its first name that cannot be passed.
-/

set_option autoImplicit false

namespace ContractProxy

abbrev Location := List Text

inductive FileTree.Entry where
  | file (content : Bytes)
  | directory
  deriving DecidableEq, Repr

structure FileTree where
  entries : List (Location × FileTree.Entry)
  working : Location
  deriving DecidableEq, Repr

namespace FileTree

def empty : FileTree where
  entries := [(["work"], .directory)]
  working := ["work"]

/-- The root is always a directory. -/
def entry? (tree : FileTree) (location : Location) : Option Entry :=
  if location.isEmpty then some .directory else tree.entries.lookup location

def erase (tree : FileTree) (location : Location) : FileTree :=
  { tree with entries := tree.entries.filter (·.1 != location) }

def insert (tree : FileTree) (location : Location) (entry : Entry) : FileTree :=
  { tree with entries := (location, entry) :: (tree.erase location).entries }

def eraseAll (tree : FileTree) (location : Location) : FileTree :=
  { tree with entries := tree.entries.filter fun (other, _) => !location.isPrefixOf other }

def longestName : Nat := 255

def longestPath : Nat := 4095

def step (tree : FileTree) (location : Location) (name : Text) : Except FileFault Location :=
  match tree.entry? location with
  | none => .error .notFound
  | some (.file _) => .error .notDirectory
  | some .directory =>
    if name == "." then .ok location
    else if name == ".." then .ok location.dropLast
    else if longestName < Text.byteLength name then .error .nameTooLong
    else if (tree.entry? (location ++ [name])).isSome then .ok (location ++ [name])
    else .error .notFound

structure Route where
  start : Location
  names : List Text
  slashed : Bool

def route (tree : FileTree) (path : Text) : Except FileFault Route :=
  if path.contains '\x00' then .error .nulInPath
  else if longestPath < Text.byteLength path then .error .nameTooLong
  else if path.isEmpty then .error .notFound
  else
    .ok {
      start := if Path.isAbsolute path then [] else tree.working
      names := (Path.segments path).filter (!·.isEmpty)
      slashed := path.getLast? == some Path.separator }

/-- The location of something that exists. A separator at the end asks for a directory. -/
def resolve (tree : FileTree) (path : Text) : Except FileFault Location := do
  let route ← tree.route path
  let location ← route.names.foldlM tree.step route.start
  if route.slashed && tree.entry? location != some .directory then .error .notDirectory
  else .ok location

/-- The directory that holds the last name of a path, and that name; none for the root. -/
def resolveLast (tree : FileTree) (path : Text) :
    Except FileFault (Location × Option Text × Bool) := do
  let route ← tree.route path
  let directory ← route.names.dropLast.foldlM tree.step route.start
  if tree.entry? directory != some .directory then .error .notDirectory
  else .ok (directory, route.names.getLast?, route.slashed)

def isDots (name : Text) : Bool :=
  name == "." || name == ".."

def isDirectory (tree : FileTree) (path : Text) : Bool :=
  match tree.resolve path with
  | .ok location => tree.entry? location == some .directory
  | .error _ => false

def read (tree : FileTree) (path : Text) : Except FileFault Bytes := do
  let location ← tree.resolve path
  match tree.entry? location with
  | some (.file content) => .ok content
  | some .directory => .error .isDirectory
  | none => .error .notFound

def makeDirectory (tree : FileTree) (path : Text) : Except FileFault FileTree := do
  let (directory, name, _) ← tree.resolveLast path
  match name with
  | none => .error .exists
  | some name =>
    if isDots name then .error .exists
    else if longestName < Text.byteLength name then .error .nameTooLong
    else if (tree.entry? (directory ++ [name])).isSome then .error .exists
    else .ok (tree.insert (directory ++ [name]) .directory)

/-- Makes directories from the outermost inwards; one that is there already will do. -/
def makeEach (tree : FileTree) : List Text → Except FileFault Unit × FileTree
  | [] => (.ok (), tree)
  | path :: rest =>
    match tree.makeDirectory path with
    | .ok tree => makeEach tree rest
    | .error fault =>
      if tree.isDirectory path then makeEach tree rest else (.error fault, tree)

/-- The paths to make for a directory, the innermost first: up to the first that can be made, or
that fails for another reason than a missing directory above it. -/
def missing (tree : FileTree) : List Text → List Text
  | [] => []
  | path :: above =>
    if path.isEmpty then []
    else
      match tree.makeDirectory path with
      | .error .notFound => path :: missing tree above
      | _ => [path]

def makeDirectories (tree : FileTree) (path : Text) : Except FileFault Unit × FileTree :=
  tree.makeEach (tree.missing (Path.ancestors path.length path)).reverse

def stagingNames : Nat := 1000000

def stagingName (file : Text) (number : Nat) : Text :=
  let digits := Text.decimal number
  FileStore.stagingName file (List.replicate (6 - digits.length) '0' ++ digits)

def freshStagingName? (tree : FileTree) (directory : Location) (file : Text) : Option Text :=
  let candidates :=
    (List.range (min (tree.entries.length + 1) stagingNames)).map (stagingName file)
  candidates.find? fun candidate => (tree.entry? (directory ++ [candidate])).isNone

def absolute (tree : FileTree) (path : Text) : Text :=
  Path.join (Path.separator :: List.intercalate [Path.separator] tree.working) path

def moveFile (tree : FileTree) (source : Location) (path : Text) :
    Except FileFault FileTree := do
  let (directory, name, slashed) ← tree.resolveLast path
  match name, tree.entry? source with
  | some name, some (.file content) =>
    if isDots name then .error .busy
    else if longestName < Text.byteLength name then .error .nameTooLong
    else if slashed then .error .notDirectory
    else if tree.entry? (directory ++ [name]) == some .directory then .error .isDirectory
    else .ok ((tree.erase source).insert (directory ++ [name]) (.file content))
  | none, _ => .error .busy
  | _, _ => .error .notFound

/-- Replaces a file by way of a staging file, which is gone afterwards in every case. All staging
names of a file are equally long. -/
def replaceFile (tree : FileTree) (directory file path : Text) (content : Bytes) :
    Except ReplaceFault Unit × FileTree :=
  match tree.resolve directory with
  | .error fault => (.error (.staging directory fault), tree)
  | .ok location =>
    let first := stagingName file 0
    let staged := Path.join (tree.absolute directory) first
    if longestName < Text.byteLength first || longestPath < Text.byteLength staged then
      (.error (.staging staged .nameTooLong), tree)
    else
      match tree.freshStagingName? location file with
      | none =>
        let full := FileFault.other "too many temporary files exist"
        (.error (.staging (tree.absolute directory) full), tree)
      | some name =>
        let staged := tree.insert (location ++ [name]) (.file content)
        match staged.moveFile (location ++ [name]) path with
        | .ok tree => (.ok (), tree)
        | .error fault => (.error (.renaming fault), staged.erase (location ++ [name]))

instance : FileStore (StateM FileTree) where
  readBytes path := fun tree => (tree.read path, tree)
  makeDirectories path := fun tree => tree.makeDirectories path
  replaceFile directory file path content := fun tree =>
    tree.replaceFile directory file path content

def put (tree : FileTree) (path : Text) (content : Bytes) : FileTree :=
  let (_, tree) := tree.makeDirectories ((Path.parent? path).getD [])
  match tree.resolveLast path with
  | .ok (directory, some name, _) => tree.insert (directory ++ [name]) (.file content)
  | _ => tree

def remove (tree : FileTree) (path : Text) : FileTree :=
  match tree.resolve path with
  | .ok location => tree.eraseAll location
  | .error _ => tree

/-- What is below the working directory, in the order of the paths, with the size of each file;
none for a directory. -/
def listing (tree : FileTree) : List (Text × Option Nat) :=
  let below := tree.entries.filterMap fun (location, entry) =>
    if tree.working.isPrefixOf location && location != tree.working then
      let path := List.intercalate [Path.separator] (location.drop tree.working.length)
      match entry with
      | .file content => some (path, some content.length)
      | .directory => some (path ++ [Path.separator], none)
    else none
  below.mergeSort fun a b => !Text.precedes b.1 a.1

end FileTree

end ContractProxy
