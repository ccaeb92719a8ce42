import TaintTracking.Text.Split

/-!
Paths, which are texts with slashes between names: their names, the directories above them, what may
stand at a path, and why one cannot be used.
-/

namespace TaintTracking

/-- What stands at a path. -/
inductive FileState where
  | absent
  | directory
  | file (bytes : ByteArray)

inductive PathFault where
  | notFound
  | permissionDenied
  | alreadyExists
  | notDirectory
  | nameTooLong
  | holdsNul
  | other (reason : String)
  deriving DecidableEq, Repr

def PathFault.message : PathFault → String
  | .notFound => "No such file or directory (os error 2)"
  | .permissionDenied => "Permission denied (os error 13)"
  | .alreadyExists => "File exists (os error 17)"
  | .notDirectory => "Not a directory (os error 20)"
  | .nameTooLong => "File name too long (os error 36)"
  | .holdsNul => "file name contained an unexpected NUL byte"
  | .other reason => reason

namespace Path

def isAbsolute (path : String) : Bool := path.toList.head? = some '/'

def names (path : String) : List String := (Text.split '/' path).filter (!·.isEmpty)

/-- The names without the dots that stand for the directory before them. -/
def properNames (path : String) : List String :=
  match isAbsolute path, names path with
  | false, "." :: names => "." :: names.filter (· ≠ ".")
  | _, names => names.filter (· ≠ ".")

def ofNames (absolute : Bool) (names : List String) : String :=
  (if absolute then "/" else "") ++ "/".intercalate names

def join (directory name : String) : String :=
  if directory.isEmpty then name else directory ++ "/" ++ name

/-- The directories above a path from the inside out, the root left out. -/
def above (path : String) : List String :=
  let names := properNames path
  (List.range (names.length - 1)).reverse.map fun count =>
    ofNames (isAbsolute path) (names.take (count + 1))

/-- The directories that have to be there for a path to be one. The root and the empty path need
none. -/
def needed (path : String) : List String :=
  if (properNames path).isEmpty then [] else path :: above path

end Path

end TaintTracking
