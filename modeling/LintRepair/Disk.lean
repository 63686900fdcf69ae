/-
Files in directories.

* `Location`: where a file or a directory lies, from the outermost directory;
* `Location.under`: the place that a path means in a directory;
* `Disk`: files with their bytes, and directories;
* `Disk.write`: the disk with a file written, or why that is not possible.

The null device takes what is written and holds nothing.
-/
import LintRepair.Text.Utf8

namespace LintRepair

open Utf8

/-- The names of the directories on the way to a file, and its own. -/
abbrev Location := List String

namespace Location

/-- The path of a location. -/
def path (l : Location) : String := "/" ++ "/".intercalate l

/-- One step along a path: nowhere, back, or into a directory. -/
def step (l : Location) (name : String) : Location :=
  if name = "" ∨ name = "." then l
  else if name = ".." then l.dropLast
  else l ++ [name]

/-- The place that a path means in a directory. -/
def under (dir : Location) (path : String) : Location :=
  (path.splitOn "/").foldl step (if path.startsWith "/" then [] else dir)

/-- The place of the null device. -/
def nullDevice : Location := ["dev", "null"]

/-- The directories on the way to a place, the outermost first. -/
def parents (l : Location) : List Location := (List.range l.length).map l.take

end Location

/-- Why a file is not written. -/
inductive WriteFault
  | directory
  | notDirectory
  | absent
  deriving DecidableEq, Repr

/-- The wording of a fault. -/
def WriteFault.message : WriteFault → String
  | .directory => "[Errno 21] Is a directory"
  | .notDirectory => "[Errno 20] Not a directory"
  | .absent => "[Errno 2] No such file or directory"

/-- Files with their bytes. There are also the directories that lead to them. -/
structure Disk where
  files : List (Location × Bytes) := []
  directories : List Location := []

namespace Disk

/-- The file at a place. -/
def file? (d : Disk) (l : Location) : Option Bytes := d.files.lookup l

/-- Whether a place is a directory. -/
def isDirectory (d : Disk) (l : Location) : Bool :=
  l.isEmpty || d.directories.any (l.isPrefixOf ·) ||
    d.files.any fun f => f.1 != l && l.isPrefixOf f.1

/-- Whether there is anything at a place. -/
def holds (d : Disk) (l : Location) : Bool :=
  (d.file? l).isSome || d.isDirectory l || l == Location.nullDevice

/-- What is read at a place: nothing from the null device. -/
def read? (d : Disk) (l : Location) : Option Bytes :=
  if l = Location.nullDevice then some [] else d.file? l

/-- The disk with a file put in its place. -/
def put (d : Disk) (l : Location) (bs : Bytes) : Disk :=
  if (d.file? l).isSome then
    { d with files := d.files.map fun f => if f.1 = l then (l, bs) else f }
  else { d with files := d.files ++ [(l, bs)] }

/-- The disk after a file was written. -/
def write (d : Disk) (l : Location) (bs : Bytes) : Except WriteFault Disk :=
  if l = Location.nullDevice then .ok d
  else if d.isDirectory l then .error .directory
  else match l.parents.find? (!d.isDirectory ·) with
    | none => .ok (d.put l bs)
    | some missing =>
      if (d.file? missing).isSome then .error .notDirectory else .error .absent

end Disk

end LintRepair
