import PackageActions.Error.Numbered
import PackageActions.Text.Utf8

/-!
# Files

`Files` is what a program asks of a file system: whether a path leads anywhere, and what a file holds. A
`FileTree` answers both from a tree of directories. A path is walked part by part: an empty part or a dot
stays, two dots go up but not above the root, and a name goes down. Every step needs a directory to start
from, so a path that ends in a slash leads to a directory.
-/

namespace PackageActions

/-- What can be asked of a file system, by path. -/
structure Files where
  lookUp : Bytes → Except IoFailure Unit
  contents : Bytes → Except IoFailure Bytes

/-! ## Paths -/

namespace Path

def slash : UInt8 := 0x2f

def dot : UInt8 := 0x2e

/-- Whether the path starts at the root. -/
def isAbsolute (path : Bytes) : Bool := path.head? = some slash

/-- The path of a relative path inside a directory. -/
def join (directory inner : Bytes) : Bytes :=
  if directory.getLast? = some slash then directory ++ inner else directory ++ slash :: inner

/-- The parts between slashes. -/
def parts : Bytes → List Bytes
  | [] => [[]]
  | b :: rest =>
    match parts rest with
    | [] => [[b]]
    | part :: more => if b = slash then [] :: part :: more else (b :: part) :: more

end Path

/-! ## Trees -/

/-- A file with its contents, or a directory with its entries. -/
inductive FileTree where
  | file (contents : Bytes)
  | directory (entries : List (Bytes × FileTree))
deriving Inhabited

namespace FileTree

/-- The entries with one entry set. -/
def setEntry (name : Bytes) (tree : FileTree) : List (Bytes × FileTree) → List (Bytes × FileTree)
  | [] => [(name, tree)]
  | (n, t) :: rest => if n = name then (n, tree) :: rest else (n, t) :: setEntry name tree rest

/-- The tree with a node put at a place; directories missing on the way are made. A directory that is there
already stays as it is. -/
def put (node : FileTree) : List Bytes → FileTree → FileTree
  | [], .directory entries =>
    match node with
    | .directory _ => .directory entries
    | .file contents => .file contents
  | [], .file _ => node
  | name :: rest, tree =>
    let entries := match tree with
      | .directory entries => entries
      | .file _ => []
    let inner := (entries.lookup name).getD (.directory [])
    .directory (setEntry name (put node rest inner) entries)

/-- The longest name that an entry can have. -/
def maxName : Nat := 255

/-- The longest path that can be asked for. -/
def maxPath : Nat := 4095

/-- A place in a tree: the node, and the directories above it from the nearest to the root. -/
structure Place where
  node : FileTree
  above : List FileTree

/-- One part of a path further. -/
def Place.step (p : Place) (part : Bytes) : Except IoFailure Place :=
  match p.node with
  | .file _ => .error .notADirectory
  | .directory entries =>
    if part = [] || part = [Path.dot] then .ok p
    else if part = [Path.dot, Path.dot] then
      match p.above with
      | [] => .ok p
      | parent :: above => .ok ⟨parent, above⟩
    else if maxName < part.length then .error .nameTooLong
    else match entries.lookup part with
      | none => .error .noSuchFile
      | some node => .ok ⟨node, p.node :: p.above⟩

/-- The place that a path leads to, relative paths from a given place. -/
def walk (root : FileTree) (current : Place) (path : Bytes) : Except IoFailure FileTree :=
  if path.contains 0 then .error .zeroByte
  else if path.isEmpty then .error .noSuchFile
  else if maxPath < path.length then .error .nameTooLong
  else do
    let start := if Path.isAbsolute path then ⟨root, []⟩ else current
    let place ← (Path.parts path).foldlM Place.step start
    pure place.node

/-- The bytes of a file; a directory has none. -/
def bytes : FileTree → Except IoFailure Bytes
  | .file contents => .ok contents
  | .directory _ => .error .isADirectory

/-- The file system of a tree, with relative paths from a place that a path leads to. -/
def files (root : FileTree) (directory : List Bytes) : Files :=
  let current : Place :=
    match directory.foldlM Place.step ⟨root, []⟩ with
    | .ok place => place
    | .error _ => ⟨root, []⟩
  { lookUp := fun path => (fun _ => ()) <$> walk root current path
    contents := fun path => do
      let tree ← walk root current path
      tree.bytes }

end FileTree

end PackageActions
