import TaintTracking.CommandLine.Request

/-!
The help on the program and on its commands: what it is for, how it is called, and tables of what may
stand in a call.
-/

namespace TaintTracking.CommandLine

structure HelpTable where
  title : String
  rows : List (String × String)

structure HelpPage where
  about : String
  usage : String
  tables : List HelpTable

namespace HelpTable

def width (table : HelpTable) : Nat :=
  table.rows.foldl (fun width row => max width row.1.length) 0

/-- All second columns begin in one place, two blanks after the longest first column. -/
def render (table : HelpTable) : String :=
  let line := fun (left, right) =>
    "  " ++ left ++ "".pushn ' ' (table.width + 2 - left.length) ++ right ++ "\n"
  table.title ++ ":\n" ++ String.join (table.rows.map line)

end HelpTable

namespace HelpPage

def render (page : HelpPage) : String :=
  "\n".intercalate ((page.about ++ "\n") :: ("Usage: " ++ page.usage ++ "\n")
    :: page.tables.map HelpTable.render)

end HelpPage

namespace Topic

def about : Topic → String
  | .program => "Trust and taint propagation core for multi-step AI orchestration pipelines"
  | .checkConfig => "Load a config file and print the effective trust settings"
  | .list => "Print the built-in functions as JSON"
  | .run => "Run a pipeline of built-in functions"
  | .help => "Print this message or the help of the given subcommand(s)"

def usage : Topic → String
  | .program => "trustflow [OPTIONS] <COMMAND>"
  | .checkConfig => "trustflow check-config [OPTIONS] <PATH>"
  | .list => "trustflow list [OPTIONS]"
  | .run => "trustflow run [OPTIONS] <INPUT> <STEPS>..."
  | .help => "trustflow help [COMMAND]..."

/-- Options without a letter are set as far in as the others. -/
def configRow : String × String :=
  ("    --config <CONFIG>", "Config file. Defaults to \x60~/.trustflow/config.toml\x60 when present")

def helpRow : String × String := ("-h, --help", "Print help")

def options (rows : List (String × String)) : HelpTable := ⟨"Options", rows⟩

def arguments (rows : List (String × String)) : HelpTable := ⟨"Arguments", rows⟩

def tables : Topic → List HelpTable
  | .program =>
    [⟨"Commands", commands.map fun topic => (topic.name, topic.about)⟩,
      options [configRow, helpRow, ("-V, --version", "Print version")]]
  | .checkConfig =>
    [arguments [("<PATH>", "Path to the TOML file")], options [configRow, helpRow]]
  | .list => [options [configRow, helpRow]]
  | .run =>
    [arguments [("<INPUT>", "Main input"), ("<STEPS>...", "Built-in function names, in order")],
      options [configRow, ("    --untrusted", "Mark the input untrusted"),
        ("    --timeout-ms <TIMEOUT_MS>", "Cancel the run after this many milliseconds"), helpRow]]
  | .help => [arguments [("[COMMAND]...", "Print help for the subcommand(s)")]]

def helpText (topic : Topic) : String := (HelpPage.mk topic.about topic.usage topic.tables).render

end Topic

def versionText : String := "trustflow 0.1.0\n"

end TaintTracking.CommandLine
