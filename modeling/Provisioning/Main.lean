import Provisioning.CommandLine
import Provisioning.Report
import Std.Time.DateTime.Timestamp

/-!
# The program

Reads the settings from the environment and from a file of assignments in the
working directory, runs the command line, prints what it prints to the standard
output and its notes to the standard error, and ends with its exit code.
-/

namespace Provisioning.Main

def usage : String :=
  "usage: fidforge [-h] [--text TEXT] [--signer-key SIGNER_KEY] [--dry-run] [-v]"

def help : String :=
  String.intercalate "\n" [usage, "",
    "Provision an account and publish a message", "",
    "  -h, --help                show this help",
    "  --text TEXT               text of the message",
    "  --signer-key SIGNER_KEY   key that is already authorized for the account",
    "  --dry-run                 use a chain and services in memory",
    "  -v, --verbose             show what is done in detail"]

/-- The variables of the environment that hold settings, in both usual cases. -/
def environment : IO (List (String × String)) := do
  let names := Settings.fieldNames.map (Settings.variablePrefix ++ ·)
  let found ← (names.map String.toUpper ++ names.map String.toLower).mapM fun name => do
    return (← IO.getEnv name).map fun value => (name, value)
  return found.filterMap id

/-- The text of the file of assignments, if there is one. -/
def assignments : IO (Option String) := do
  try
    return some (← IO.FS.readFile ".env")
  catch _ => return none

/-- A clock that starts now. -/
def clock : IO Clock := do
  let now ← Std.Time.Timestamp.now
  return Clock.ofStart (Binary64.ofInt now.toSecondsSinceUnixEpoch.val)

def seed : IO Bytes := do
  return (← IO.getRandomBytes 32).toList

/-- Writes down a session: its lines, then its notes. -/
def writeDown (command : CommandLine.Command) (session : Session) : IO Unit := do
  (Report.printedLines session.journal).forM fun line => IO.println line
  (Report.notes (CommandLine.leastLevel command) session.journal).forM fun note =>
    IO.eprintln s!"{note.1.name} {note.2.1.name}: {note.2.2}"

/-- Runs a command line that asks for a run. -/
def run (command : CommandLine.Command) : IO UInt32 := do
  let sources : Settings.Sources :=
    ⟨[], ← environment, ← assignments, Settings.variablePrefix⟩
  let opening := CommandLine.opening (← clock) [← seed] []
  let (ending, session) := CommandLine.execute command sources opening
  writeDown command session
  match ending with
  | .done code | .refused code => return UInt32.ofNat code
  | .failed failure =>
    IO.eprintln failure.message
    return 1

end Provisioning.Main

def main (args : List String) : IO UInt32 := do
  match Provisioning.CommandLine.parse args with
  | .help =>
    IO.println Provisioning.Main.help
    return 0
  | .unusable =>
    IO.eprintln Provisioning.Main.usage
    return 2
  | command => Provisioning.Main.run command
