import CloudNet.Directory
import CloudNet.Snapshot.Model

/-!
# Snapshot files

A snapshot is written into a file that is named for the day, in a directory that is there already,
and is read back from the path of that file.
-/

namespace CloudNet

/-- A day of the calendar. -/
structure Day where
  year : Nat
  month : Nat
  day : Nat
  deriving DecidableEq, Repr

namespace Day

/-- A number with at least the given count of digits. -/
def padded (width n : Nat) : String :=
  let digits := Text.decimal n
  String.ofList (List.replicate (width - digits.length) '0') ++ digits

/-- The name of the snapshot file of a day. -/
def snapshotName (d : Day) : String :=
  s!"gni_model_{padded 4 d.year}-{padded 2 d.month}-{padded 2 d.day}.json"

end Day

namespace Directory

/-- The path of a name in the directory that a path leads to. -/
def join (path name : String) : String :=
  if path = "" ∨ path.toList.getLast? = some '/' then path ++ name else path ++ "/" ++ name

/-- The place of the file that a path leads to, whether it is there or not. -/
def filePlace (d : Directory) (path : String) : Except Fault Place :=
  match d.locate? path with
  | none => .error .noSuchFile
  | some place => if d.isDirectory place then .error .isDirectory else .ok place

/-- The directory once a file is written; what was in the file before is lost. -/
def write (d : Directory) (path : String) (contents : ByteArray) : Except Fault Directory :=
  (d.filePlace path).map fun place =>
    { d with files := (place, contents) :: d.files.filter fun file => file.1 ≠ place }

/-- The contents of a file. -/
def read (d : Directory) (path : String) : Except Fault ByteArray := do
  match d.files.lookup (← d.filePlace path) with
  | some contents => return contents
  | none => .error .noSuchFile

/-- Write the snapshot of a day into the directory that a path leads to. The answer has the path of
the file. -/
def writeSnapshot (d : Directory) (path : String) (today : Day) (m : NetworkModel) :
    Except Fault (String × Directory) :=
  let file := join path today.snapshotName
  (d.write file m.toSnapshot.toUTF8).map (file, ·)

/-- Read the model in a snapshot file. -/
def readSnapshot (d : Directory) (file : String) : Except Fault NetworkModel := do
  match String.fromUTF8? (← d.read file) with
  | some s => NetworkModel.ofSnapshot s
  | none => .error .notText

end Directory

end CloudNet
