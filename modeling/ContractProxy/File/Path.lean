import ContractProxy.Text.Basic

/-!
Paths as text. Repeated separators, separators at the end and single dots behind the first segment
do not count.
-/

set_option autoImplicit false

namespace ContractProxy.Path

abbrev separator : Char := '/'

def segments (path : Text) : List Text :=
  path.splitOn separator

def isIdle (segment : Text) : Bool :=
  segment.isEmpty || segment == "."

def dropIdle (segments : List Text) : List Text :=
  (segments.reverse.dropWhile isIdle).reverse

def isAbsolute : Text → Bool
  | '/' :: _ => true
  | _ => false

def cut (path : Text) : Text × List Text :=
  match segments path with
  | [] => ([], [])
  | first :: rest => (first, dropIdle rest)

def isName (segment : Text) : Bool :=
  !isIdle segment && segment != ".."

def fileName? (path : Text) : Option Text :=
  let (first, rest) := cut path
  let last := rest.getLast?.getD first
  if isName last then some last else none

/-- The path without its last segment; a path without segments has no parent. -/
def parent? (path : Text) : Option Text :=
  match cut path with
  | ([], []) => none
  | (_, []) => some []
  | (first, rest) =>
    let rest := dropIdle rest.dropLast
    if first.isEmpty && rest.isEmpty then some [separator]
    else some (List.intercalate [separator] (first :: rest))

/-- A path below a base; an absolute path stands for itself. -/
def join (base path : Text) : Text :=
  if isAbsolute path || base.isEmpty then path
  else if base.getLast? == some separator then base ++ path
  else base ++ separator :: path

def longestSegment (path : Text) : Nat :=
  (segments path).foldl (fun longest segment => max longest (Text.byteLength segment)) 0

def ancestors : Nat → Text → List Text
  | 0, path => [path]
  | fuel + 1, path =>
    match parent? path with
    | some parent => path :: ancestors fuel parent
    | none => [path]

end ContractProxy.Path
