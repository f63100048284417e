import CloudNet.Identity
import CloudNet.Settings
import CloudNet.Slot
import CloudNet.Snapshot.File
import CloudNet.Summary

/-!
# Sessions

One run of the program, from what it finds on its host to what it leaves behind: start the log, read
the settings and the document, build and check the model, print its summary, and write a snapshot if
asked to. A run whose log, settings, document or model cannot be used prints and writes nothing.
-/

namespace CloudNet

/-- The text of a file's bytes, which have to be UTF-8; `none` stands for a file that cannot be
read. -/
def readDocumentText (bytes : Option ByteArray) : Except Fault String :=
  match bytes.bind String.fromUTF8? with
  | some s => .ok s
  | none => .error (.input .unreadableFile)

namespace Session

/-- What a run finds on its host. -/
structure Host where
  environment : Environment := []
  /-- What comes of starting the log. -/
  startLog : Except Fault Unit := .ok ()
  /-- The contents of the file that a path leads to, if it can be read. -/
  file? : String → Option ByteArray := fun _ => none
  /-- What comes of writing a file to a path. -/
  write : String → Except Fault Unit := fun _ => .error .noSuchFile
  today : Day
  /-- The output goes to a terminal. -/
  terminal : Bool := false

/-- The host of a run in a directory. -/
def Host.ofDirectory (d : Directory) (environment : Environment) (today : Day) : Host where
  environment
  file? := d.file?
  write path := (d.filePlace path).map fun _ => ()
  today

/-- What a run leaves behind. -/
structure Outcome where
  /-- The lines that are printed. -/
  output : List String := []
  fault : Option Fault := none
  /-- The path and the text of the snapshot file that is written. -/
  snapshot : Option (String × String) := none

/-- The environment of a run: that of the host and the file `.env`. -/
def environment (h : Host) : Environment :=
  match (h.file? ".env").bind String.fromUTF8? with
  | some s => DotEnv.load h.environment s
  | none => h.environment

/-! ## Colours -/

/-- A variable that is set, to anything but `0`. -/
def isOn (env : Environment) (name : String) : Option Bool := (env.lookup name).map (· != "0")

/-- Labels are coloured: if that is forced, or else on a terminal unless it is turned off. -/
def coloured (env : Environment) (terminal : Bool) : Bool :=
  if isOn env "CLICOLOR_FORCE" = some true then true
  else if (isOn env "NO_COLOR").isSome then false
  else (isOn env "CLICOLOR").getD true && terminal

/-- A label on a background of the given colour. -/
def label (colour : Bool) (code : String) (s : String) : String :=
  if colour then "\x1b[" ++ code ++ "m" ++ s ++ "\x1b[0m" else s

/-- The code of a blue background. -/
def blue : String := "44"

/-- The code of a red background. -/
def red : String := "41"

/-- What is printed about a model. -/
def summary (colour : Bool) (m : NetworkModel) : List String :=
  ["#" ++ label colour blue "GNI" ++ "# network model summary"] ++ Summary.lines m ++
    if m.hostnames.entries.isEmpty then
      ["#" ++ label colour red "NOTE" ++ "# no hostname cache loaded"]
    else []

/-! ## Runs -/

/-- The model that a run is about, with what it remarks on the way. -/
def model (settings : Settings) (text : String) : Noted (Except Fault NetworkModel) := do
  let hostnames ← HostnameCache.ofPairs settings.hostnames
  let (result, _) ← ({ hostnames } : Slot).refresh {} text settings.extent
  return result

/-- What a run says about the place of its host in the network. -/
def placement (settings : Settings) (m : NetworkModel) : Noted (Option Cluster × Option Node) := do
  let addresses ← LocalAddresses.ofTexts settings.localAddresses
  let cluster := m.selfCluster? addresses
  Noted.tellIf cluster.isNone .notInAnyCluster
  return (cluster, m.selfNode? addresses)

/-- What a run leaves behind once it has a model. -/
def report (h : Host) (settings : Settings) (m : NetworkModel) : Outcome :=
  let output := summary (coloured (environment h) h.terminal) m
  match settings.snapshotDirectory with
  | none => { output }
  | some directory =>
    let file := Directory.join directory h.today.snapshotName
    match h.write file with
    | .ok () => { output, snapshot := some (file, m.toSnapshot) }
    | .error fault => { output, fault := some fault }

/-- The settings of a run and the text of its document. -/
def input (h : Host) : Noted (Except Fault (Settings × String)) := do
  match ← Settings.ofEnvironment (environment h) with
  | .error fault => return .error fault
  | .ok settings =>
    return (readDocumentText (h.file? settings.documentPath)).map (settings, ·)

/-- Run the program. -/
def run (h : Host) : Noted Outcome := do
  if let .error fault := h.startLog then return { fault := some fault }
  match ← input h with
  | .error fault => return { fault := some fault }
  | .ok (settings, text) =>
    match ← model settings text with
    | .error fault => return { fault := some fault }
    | .ok m =>
      let _ ← placement settings m
      return report h settings m

end Session

end CloudNet
