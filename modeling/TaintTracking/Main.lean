import TaintTracking.CommandLine.Execute
import TaintTracking.CommandLine.Help
import TaintTracking.CommandLine.Parser
import TaintTracking.Text.Uuid
import Std.Time.Format

/-!
The program on the command line: its arguments, files and streams.
-/

namespace TaintTracking.CommandLine

def pathFault : IO.Error → PathFault
  | .noFileOrDirectory .. => .notFound
  | .permissionDenied .. => .permissionDenied
  | .alreadyExists .. => .alreadyExists
  | .inappropriateType .. => .notDirectory
  | .invalidArgument _ code reason => .other (reason ++ " (os error " ++ toString code ++ ")")
  | error => .other (toString error)

def isDirectoryOnDisk (path : String) : IO Bool := do
  try (← IO.FS.realPath path).isDir
  catch _ => return false

def pathExists (path : String) : IO Bool := do
  try
    discard (IO.FS.realPath path)
    return true
  catch _ => return false

def fileStateOnDisk (path : String) : IO FileState := do
  try return .file (← IO.FS.readBinFile path)
  catch _ => return if ← pathExists path then .directory else .absent

def createDirectoryOnDisk (path : String) : IO (Option PathFault) := do
  try
    IO.FS.createDir path
    return none
  catch error => return some (pathFault error)

/-- Logs are kept by the day. -/
def logPath (directory : String) : IO String := do
  let now := Std.Time.PlainDateTime.ofWallTime ((← Std.Time.Timestamp.now).toWallTime .zero)
  return Path.join directory ("trustflow.log." ++ now.date.toSQLDateString)

def beginLogOnDisk (directory : String) : IO Bool := do
  try
    IO.FS.withFile (← logPath directory) .append fun _ => return true
  catch _ => return false

def machine : IO (Host IO) := do
  return {
    home := (← IO.getEnv "HOME").getD ""
    fileState := fileStateOnDisk
    isDirectory := isDirectoryOnDisk
    createDirectory := createDirectoryOnDisk
    beginLog := beginLogOnDisk
    newRunName := return Text.Uuid.ofRandom (← IO.getRandomBytes 16).toList }

/-- One entry a line. -/
def writeLog (log : LogFile) : IO Unit := do
  IO.FS.withFile (← logPath log.directory) .append fun file =>
    log.entries.forM fun entry => file.putStrLn (Json.compact entry.toData)

def finish (outcome : Outcome) : IO UInt32 := do
  outcome.log.forM writeLog
  match outcome.result with
  | .ok text =>
    (← IO.getStdout).putStr text
    return 0
  | .error error =>
    (← IO.getStderr).putStrLn ("Error: " ++ error.message)
    return error.exitCode.toUInt32

def answer : Request → IO UInt32
  | .help topic => do
    (← IO.getStdout).putStr topic.helpText
    return 0
  | .version => do
    (← IO.getStdout).putStr versionText
    return 0
  | .misuse error => do
    (← IO.getStderr).putStrLn ("error: " ++ error.message)
    return 2
  | .execute command => do finish (← command.execute (← machine))

end TaintTracking.CommandLine

open TaintTracking.CommandLine in
def main (arguments : List String) : IO UInt32 := answer (.ofTexts arguments)
