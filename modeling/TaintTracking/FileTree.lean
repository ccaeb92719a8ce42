import TaintTracking.Path

/-!
Files and directories in memory. A path is walked name by name, and every name is looked up in the
directory that the walk has reached, so `file/..` leads nowhere.
-/

namespace TaintTracking

inductive FileNode where
  | file (bytes : ByteArray)
  | directory (children : List (String × FileNode))

/-- A place is given by the names that lead to it from the root. -/
abbrev Place := List String

namespace FileNode

def state : FileNode → FileState
  | .file bytes => .file bytes
  | .directory _ => .directory

def isDirectory : FileNode → Bool
  | .file _ => false
  | .directory _ => true

/-- Puts something at a place, and directories above it where nothing is. -/
def put (new : FileNode) : FileNode → Place → FileNode
  | _, [] => new
  | .file bytes, _ :: _ => .file bytes
  | .directory children, name :: place =>
    let child := (children.lookup name).getD (.directory [])
    .directory ((name, put new child place) :: children.filter (·.1 ≠ name))

end FileNode

/-- Paths that are not absolute start in the current directory. A sealed directory takes nothing
new. -/
structure FileTree where
  root : FileNode
  current : Place
  sealedPlaces : List Place

namespace FileTree

/-- The nodes on the way from the root with their names, the last one first. -/
abbrev Trail := List (String × FileNode)

def Trail.place (trail : Trail) : Place := (trail.map (·.1)).reverse

/-- The node at the end of a trail. -/
def reached (tree : FileTree) : Trail → FileNode
  | [] => tree.root
  | (_, node) :: _ => node

/-- The greatest number of bytes of a name and of a path. -/
def maxName : Nat := 255

def maxPath : Nat := 4095

/-- What a name stands for in the directory that a trail has reached: nothing, or a longer or shorter
trail. -/
def next? (tree : FileTree) (trail : Trail) (name : String) : Except PathFault (Option Trail) :=
  match tree.reached trail with
  | .file _ => .error .notDirectory
  | .directory children =>
    if name = "." then .ok (some trail)
    else if name = ".." then .ok (some trail.tail)
    else if maxName < name.utf8ByteSize then .error .nameTooLong
    else .ok ((children.lookup name).map fun node => (name, node) :: trail)

def step (tree : FileTree) (trail : Trail) (name : String) : Except PathFault Trail := do
  match ← tree.next? trail name with
  | some trail => return trail
  | none => .error .notFound

def walk (tree : FileTree) (names : List String) : Except PathFault Trail :=
  names.foldlM tree.step []

/-- The names on the way from the root to a path. -/
def namesTo (tree : FileTree) (path : String) : Except PathFault (List String) :=
  if path.isEmpty then .error .notFound
  else if maxPath < path.utf8ByteSize then .error .nameTooLong
  else .ok ((if Path.isAbsolute path then [] else tree.current) ++ Path.names path)

/-- A slash at the end asks for a directory, as a dot does. -/
def closing (path : String) : List String :=
  if path.toList.getLast? = some '/' then ["."] else []

def locate (tree : FileTree) (path : String) : Except PathFault Trail := do
  tree.walk ((← tree.namesTo path) ++ closing path)

def trail? (tree : FileTree) (path : String) : Option Trail := (tree.locate path).toOption

def place? (tree : FileTree) (path : String) : Option Place := (tree.trail? path).map Trail.place

def fileState (tree : FileTree) (path : String) : FileState :=
  (tree.trail? path).elim .absent fun trail => (tree.reached trail).state

def isDirectory (tree : FileTree) (path : String) : Bool :=
  (tree.trail? path).any fun trail => (tree.reached trail).isDirectory

/-- Whether files can be made in a directory. The empty path stands for the current one. -/
def takesFiles (tree : FileTree) (path : String) : Bool :=
  match if path.isEmpty then tree.trail? "." else tree.trail? path with
  | some trail => (tree.reached trail).isDirectory && !tree.sealedPlaces.contains trail.place
  | none => false

def put (tree : FileTree) (place : Place) (node : FileNode) : FileTree :=
  { tree with root := node.put tree.root place }

/-- The place of a directory that is to be made. Dots name no new place. -/
def freshPlace (tree : FileTree) (path : String) : Except PathFault Place := do
  match (← tree.namesTo path).reverse with
  | [] => .error .alreadyExists
  | name :: before =>
    let trail ← tree.walk before.reverse
    match ← tree.next? trail name with
    | some _ => .error .alreadyExists
    | none =>
      if tree.sealedPlaces.contains trail.place then .error .notFound
      else return trail.place ++ [name]

/-- Writes a file, which may be there already. -/
def writeFile (tree : FileTree) (path : String) (bytes : ByteArray) : Except PathFault FileTree :=
  match tree.freshPlace path, tree.trail? path with
  | .ok place, _ => .ok (tree.put place (.file bytes))
  | .error fault, none => .error fault
  | .error fault, some trail =>
    if (tree.reached trail).isDirectory then .error fault
    else .ok (tree.put trail.place (.file bytes))

def createDirectory (tree : FileTree) (path : String) : Option PathFault × FileTree :=
  match tree.freshPlace path with
  | .ok place => (none, tree.put place (.directory []))
  | .error fault => (some fault, tree)

end FileTree

end TaintTracking
