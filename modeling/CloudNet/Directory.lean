import CloudNet.Text.Blank

/-!
# Directories

What is in and below a directory, and the paths that lead there. A path is followed from name to
name: every name but the last has to be that of a directory, `.` and empty names stay where they
are, and `..` goes back. A path starts from the directory, or from the root if a slash is its first
character; then it has to come through the directory. Nothing is known of what is outside, so paths
that end there or come back from there lead to nothing.
-/

namespace CloudNet

/-- The names that lead from a directory to a place in or below it. -/
abbrev Place := List String

/-- A directory with all that is in and below it. -/
structure Directory where
  files : List (Place × ByteArray) := []
  directories : List Place := []
  /-- The names that lead from the root to the directory, if that is known. -/
  location? : Option (List String) := none

namespace Directory

/-- The names of a path. -/
def names (path : String) : List String :=
  (path.toList.splitOnP (· = '/')).map String.ofList

/-- The place is the directory itself or a directory below. -/
def isDirectory (d : Directory) (place : Place) : Bool := place = [] || place ∈ d.directories

/-- Follow names from a place. -/
def follow (d : Directory) : Place → List String → Option Place
  | place, [] => some place
  | place, name :: rest =>
    if !d.isDirectory place then none
    else if name = "" || name = "." then d.follow place rest
    else if name = ".." then if place = [] then none else d.follow place.dropLast rest
    else d.follow (place ++ [name]) rest

/-- The names that are left of a path from the root once it has come to a location. -/
def beyond : List String → List String → Option (List String)
  | [], names => some names
  | _ :: _, [] => none
  | step :: location, name :: rest =>
    if name = "" || name = "." then beyond (step :: location) rest
    else if name = step then beyond location rest
    else none

/-- The names of a path that are to be followed from the directory. -/
def fromHere? (d : Directory) : List String → Option (List String)
  | "" :: rest => d.location?.bind (beyond · rest)
  | names => some names

/-- The place that a path leads to. The empty path leads nowhere. -/
def locate? (d : Directory) (path : String) : Option Place :=
  if path = "" then none else (d.fromHere? (names path)).bind (d.follow [])

/-- The contents of the file that a path leads to. -/
def file? (d : Directory) (path : String) : Option ByteArray :=
  (d.locate? path).bind fun place => d.files.lookup place

/-- The path leads to a directory. -/
def hasDirectory (d : Directory) (path : String) : Bool := (d.locate? path).any d.isDirectory

/-- From a place that is no directory no name leads on. -/
theorem follow_eq_none {d : Directory} {place : Place} (h : d.isDirectory place = false)
    (name : String) (rest : List String) : d.follow place (name :: rest) = none := by
  simp [follow, h]

end Directory

end CloudNet
