/-
Where programs run: a directory on a disk, with streams.

* `Channel`: what a stream leads to;
* `Place`: a directory, a disk, and the channels under the numbers of streams;
* `Place.write?`, `Place.readAll?`, `Place.openFile`: what programs do there;
* `Place.lead`, `Place.copy?`, `Place.close`: where streams are led;
* `Place.leadBack`: streams as they were.

Streams zero, one and two are for input, output and errors. Several streams
may lead to one channel, and then share what was read or written.
-/
import LintRepair.Disk
import LintRepair.Shell.Script
import LintRepair.Text.Basic

namespace LintRepair.Shell

/-- What a stream leads to. -/
inductive Channel
  /-- What is there still to be read. -/
  | source (rest : Octets)
  /-- What was written. -/
  | sink (written : Octets)
  | file (l : Location) (opening : Opening) (offset : Nat)

/-- Where a program runs. -/
structure Place where
  dir : Location
  disk : Disk
  /-- The variables that programs are told. -/
  environment : List (Octets × Octets) := []
  channels : List Channel := []
  /-- The channels that the open streams lead to. -/
  streams : List (Nat × Nat) := []

/-- The numbers of the streams that every program has. -/
def inputStream : Nat := 0

@[inherit_doc inputStream]
def outputStream : Nat := 1

@[inherit_doc inputStream]
def errorStream : Nat := 2

namespace Place

/-! ### Channels -/

/-- The channel that a stream leads to. -/
def channel? (p : Place) (stream : Nat) : Option Channel := do
  p.channels[← p.streams.lookup stream]?

/-- The place with another channel behind a stream. -/
def setChannel (p : Place) (stream : Nat) (c : Channel) : Place :=
  match p.streams.lookup stream with
  | some i => { p with channels := p.channels.set i c }
  | none => p

/-- The place with a stream led to a channel. -/
def connect (p : Place) (stream channel : Nat) : Place :=
  { p with streams := (stream, channel) :: p.streams.filter (·.1 != stream) }

/-- The place with a stream led to a new channel. -/
def lead (p : Place) (stream : Nat) (c : Channel) : Place :=
  ({ p with channels := p.channels ++ [c] } : Place).connect stream p.channels.length

/-- The place with a stream led to where another one leads. -/
def copy? (p : Place) (stream other : Nat) : Option Place :=
  (p.streams.lookup other).map (p.connect stream)

/-- The place with a stream closed. -/
def close (p : Place) (stream : Nat) : Place :=
  { p with streams := p.streams.filter (·.1 != stream) }

/-- The place with some streams led to where they led before. -/
def leadBack (p : Place) (before : List (Nat × Nat)) (streams : List Nat) : Place :=
  { p with
    streams := before.filter (streams.contains ·.1) ++
      p.streams.filter (!streams.contains ·.1) }

/-- What was written to a channel. -/
def written (p : Place) (channel : Nat) : Octets :=
  match p.channels[channel]? with
  | some (.sink t) => t
  | _ => []

/-- A place with streams for an input, for output and for errors. -/
def start (dir : Location) (disk : Disk) (input : Octets) : Place :=
  { dir, disk
    channels := [.source input, .sink [], .sink []]
    streams := [(0, 0), (1, 1), (2, 2)] }

/-! ### Writing -/

/-- The bytes of a file with others in place of those from an offset on. -/
def overwritten (old new : Octets) (offset : Nat) : Octets :=
  old.take offset ++ List.replicate (offset - old.length) '\x00' ++ new ++
    old.drop (offset + new.length)

/-- The place after something was written to a stream; none if it is not open
for that. -/
def write? (p : Place) (stream : Nat) (t : Octets) : Option Place :=
  match p.channel? stream with
  | some (.sink written) => some (p.setChannel stream (.sink (written ++ t)))
  | some (.file l opening offset) =>
    if opening = .read then none
    else
      let old := Octets.ofBytes ((p.disk.read? l).getD [])
      let offset := if opening = .append then old.length else offset
      match p.disk.write l (Octets.toBytes (overwritten old t offset)) with
      | .ok disk =>
        some (({ p with disk } : Place).setChannel stream (.file l opening (offset + t.length)))
      | .error _ => none
  | _ => none

/-- The place with more output, if the stream is open. -/
def write (p : Place) (t : Octets) : Place := (p.write? outputStream t).getD p

/-- The place with one more line of errors, if the stream is open. -/
def complain (p : Place) (message : Octets) : Place :=
  (p.write? errorStream (message ++ ['\n'])).getD p

/-! ### Reading -/

/-- What is there still to be read from a stream; none if it is not open for
that. -/
def unread? (p : Place) (stream : Nat) : Option Octets :=
  match p.channel? stream with
  | some (.source rest) => some rest
  | some (.file l opening offset) =>
    if opening = .write ∨ opening = .append then none
    else some ((Octets.ofBytes ((p.disk.read? l).getD [])).drop offset)
  | _ => none

/-- The place after so many bytes of a stream were read. -/
def skip (p : Place) (stream count : Nat) : Place :=
  match p.channel? stream with
  | some (.source rest) => p.setChannel stream (.source (rest.drop count))
  | some (.file l opening offset) => p.setChannel stream (.file l opening (offset + count))
  | _ => p

/-- All that is there to be read from a stream, and the place afterwards. -/
def readAll? (p : Place) (stream : Nat) : Option (Octets × Place) :=
  (p.unread? stream).map fun t => (t, p.skip stream t.length)

/-! ### Files -/

/-- The place on the disk that a path means. -/
def locate (p : Place) (path : Octets) : Location := Location.under p.dir (Octets.toString path)

/-- The stream that a path is another name for. -/
def streamNamed? (path : Octets) : Option Nat :=
  match String.ofList path with
  | "/dev/stdin" => some inputStream
  | "/dev/stdout" => some outputStream
  | "/dev/stderr" => some errorStream
  | s =>
    match s.splitOn "/" with
    | ["", "dev", "fd", n] | ["", "proc", "self", "fd", n] =>
      if !n.isEmpty && n.toList.all Text.isAsciiDigit then some (Text.ofDecimal n.toList) else none
    | _ => none

/-- Whether there is anything at a path. -/
def holds (p : Place) (path : Octets) : Bool :=
  match streamNamed? path with
  | some n => (p.streams.lookup n).isSome
  | none => !path.isEmpty && p.disk.holds (p.locate path)

/-- Whether there is a directory at a path. -/
def isDirectory (p : Place) (path : Octets) : Bool :=
  !path.isEmpty && (streamNamed? path).isNone && p.disk.isDirectory (p.locate path)

/-- Why a file is not opened. -/
inductive OpenFault
  | absent
  | directory
  deriving DecidableEq, Repr

/-- The place with a stream led to a file. -/
def openFile (p : Place) (stream : Nat) (opening : Opening) (path : Octets) :
    Except OpenFault Place :=
  match streamNamed? path with
  | some other =>
    match p.copy? stream other with
    | some p => .ok p
    | none => .error .absent
  | none =>
    let l := p.locate path
    let found? := p.disk.read? l
    let led (disk : Disk) : Except OpenFault Place :=
      .ok (({ p with disk } : Place).lead stream (.file l opening 0))
    if path.isEmpty then .error .absent
    else if opening = .read then
      if found?.isSome || p.disk.isDirectory l then led p.disk else .error .absent
    else if p.disk.isDirectory l then .error .directory
    else
      match p.disk.write l (if opening = .write then [] else found?.getD []) with
      | .ok disk => led disk
      | .error .directory => .error .directory
      | .error _ => .error .absent

/-- What a file holds. -/
def read? (p : Place) (path : Octets) : Option Octets :=
  (p.disk.read? (p.locate path)).map Octets.ofBytes

/-- The names in a directory, which has names for itself and for the one above. -/
def names (p : Place) (l : Location) : List Octets :=
  let below (m : Location) : Option String :=
    if l.isPrefixOf m then m[l.length]? else none
  let found := (((p.disk.files.map (·.1)) ++ p.disk.directories).filterMap below).eraseDups
  ((if p.disk.isDirectory l then [".", ".."] else []) ++ found).map Octets.ofString

end Place

end LintRepair.Shell
