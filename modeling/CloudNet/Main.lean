import CloudNet.Session
import CloudNet.Snapshot.File
import Std.Time.DateTime

/-!
# Command line

Runs a session on the actual host: gathers the variables and files that it asks for, prints what it
says, and writes the snapshot into a file named for the day. Notices and a fault go to the error
output.
-/

namespace CloudNet.CommandLine

/-- The environment variables that every run looks at. -/
def variableNames : List String :=
  ["GNI_XML_PATH", "GNI_POPULATE_MODE", "GNI_LOCAL_ADDRS", "GNI_SNAPSHOT_DIR", "GNI_HOSTNAMES",
    "CLICOLOR_FORCE", "NO_COLOR", "CLICOLOR"]

/-- The words of an environment file that could be names of variables. -/
def candidates (file : String) : List String :=
  let boundaries : List (Char → Bool) :=
    [(!DotEnv.isNameChar ·), (!Text.isAlphanumeric ·), fun c => c = '\x7b' || c = '\x7d']
  let words := boundaries.flatMap file.toList.splitOnP
  (words.filter (· ≠ [])).map String.ofList

/-- The values of those of the variables that are set. -/
def environment (names : List String) : IO Environment :=
  names.eraseDups.filterMapM fun name => do
    return (← IO.getEnv name).map fun value => (name, value)

/-- A file with its contents, if it can be read. -/
def file? (path : String) : IO (List (String × ByteArray)) := do
  try
    return [(path, ← IO.FS.readBinFile path)]
  catch _ =>
    return []

/-- The file with the settings of the log. -/
def logSettings : String := "log4rs.yml"

/-- Start the log. What it says goes to the error output, but it has to have its settings. -/
def startLog : IO (Except Fault Unit) := do
  if (← file? logSettings).isEmpty then return .error (.noLog s!"unable to read {logSettings}")
  return .ok ()

/-- The day that it is today. -/
def today : IO Day := do
  let date := Std.Time.PlainDate.ofEpochDay (← Std.Time.Timestamp.now).toDaysSinceUnixEpoch
  return ⟨date.year.toInt.toNat, date.month.toNat, date.day.toNat⟩

/-- What there is on this host for a run. Files are taken to be writable until they are written. -/
def host : IO Session.Host := do
  let dotEnv ← file? ".env"
  let text := (dotEnv.head?.bind fun file => String.fromUTF8? file.2).getD ""
  let terminal ← (← IO.getStdout).isTty
  let bare : Session.Host :=
    { environment := ← environment (variableNames ++ candidates text)
      startLog := ← startLog
      file? := (dotEnv.lookup ·)
      write := fun _ => .ok ()
      today := ← today
      terminal }
  match (Settings.ofEnvironment (Session.environment bare)).value with
  | .error _ => return bare
  | .ok settings =>
    let files := dotEnv ++ (← file? settings.documentPath)
    return { bare with file? := (files.lookup ·) }

end CloudNet.CommandLine

/-- Run the program on this host. The exit code is zero if there is no fault. -/
def main : IO UInt32 := do
  let run := CloudNet.Session.run (← CloudNet.CommandLine.host)
  for notice in run.notices do
    IO.eprintln notice.line
  for line in run.value.output do
    IO.println line
  match run.value.fault, run.value.snapshot with
  | some fault, _ =>
    IO.eprintln s!"Error: {fault.message}"
    return 1
  | none, some (file, text) =>
    IO.FS.writeFile file text
    return 0
  | none, none => return 0
