import TaintTracking.Path

/-!
What surrounds the program: the files that it reads and the directories that it makes are in the
hands of a host, which may be a machine or a tree in memory.
-/

namespace TaintTracking.CommandLine

/-- A directory that is made has no fault. A log is begun in a directory before it has entries, and the
host tells whether it could be. -/
structure Host (m : Type → Type) where
  home : String
  fileState : String → m FileState
  isDirectory : String → m Bool
  createDirectory : String → m (Option PathFault)
  beginLog : String → m Bool
  newRunName : m String

namespace Host

variable {m : Type → Type} [Monad m]

def defaultPath (host : Host m) : String := Path.join host.home ".trustflow/config.toml"

/-- Makes a directory unless it is there already. -/
def ensureDirectory (host : Host m) (path : String) : m (Option PathFault) := do
  match ← host.createDirectory path with
  | some .alreadyExists => return if ← host.isDirectory path then none else some .alreadyExists
  | result => return result

/-- Ensures directories from the first one on until one has a fault. -/
def ensureAll (host : Host m) : List String → m (Option PathFault)
  | [] => return none
  | path :: paths => do
    match ← host.ensureDirectory path with
    | none => host.ensureAll paths
    | some fault => return some fault

/-- Tries to make a directory, and as long as the directory above is missing that one. The missing
ones are collected with the outermost first, and made in that order. -/
def ensureFrom (host : Host m) (missing : List String) : List String → m (Option PathFault)
  | [] => host.ensureAll missing
  | path :: paths => do
    match ← host.ensureDirectory path with
    | none => host.ensureAll missing
    | some .notFound => host.ensureFrom (path :: missing) paths
    | some fault => return some fault

/-- Makes a directory with those above it. -/
def makeDirectory (host : Host m) (path : String) : m (Option PathFault) :=
  if path.toList.contains '\x00' then return some .holdsNul
  else host.ensureFrom [] (Path.needed path)

end Host

end TaintTracking.CommandLine
