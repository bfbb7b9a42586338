import FlakeImage.Timeline.Journal

/-! # Files

A directory tree as far as it is known: the root, the working directory, which lies in the root, and what is in
them. Walking a path follows its names one by one through directories, and the first name that leads nowhere
settles what is reported. -/

namespace FlakeImage

/-- What a path can lead to. -/
inductive Node
  | file (contents : Bytes)
  | directory
  /-- A program that can be run, known by a name. -/
  | program (name : String)
  deriving Repr

/-- A node opened as an archive. A directory can be opened, but not read. -/
def Node.archive : Node → Archive
  | .file contents => ⟨contents, none⟩
  | .directory => ⟨[], some .isDirectory⟩
  | .program _ => ⟨[], none⟩

/-- A place in the tree: names from the root or from the working directory. -/
structure Place where
  fromRoot : Bool
  names : List Bytes
  deriving DecidableEq, Repr

/-- The directory that a place lies in; the root lies in itself. -/
def Place.parent (place : Place) : Place :=
  if place.names.isEmpty then ⟨true, []⟩ else { place with names := place.names.dropLast }

/-- What is known of the files. -/
structure Disk where
  /-- The path of the working directory. -/
  workingDirectory : Bytes
  nodes : List (Place × Node)
  deriving Repr

namespace Path

/-- The byte between names. -/
def slash : UInt8 := 47

/-- The parts between slashes. -/
def parts (p : Path) : List Bytes := p.bytes.splitOnP (· == slash)

/-- The path begins at the root. -/
def isAbsolute (p : Path) : Bool := p.bytes.head? == some slash

/-- The names of a path; one that ends with a slash ends in the directory itself. -/
def names (p : Path) : List Bytes :=
  let l := p.parts.filter (!·.isEmpty)
  if p.bytes.getLast? == some slash then l ++ [[46]] else l

/-- Why the system refuses a path without looking for it. -/
def refused? (p : Path) : Option SystemError :=
  if p.bytes.isEmpty then some .notFound
  else if p.bytes.contains 0 then some (.text "file name contained an unexpected NUL byte")
  else none

/-- How long a path to a file that is used may be. -/
def longest : Nat := 4095

/-- How long a name in a directory may be. -/
def longestName : Nat := 255

end Path

namespace Disk

/-- What is at a place: the root and the working directory are always there. -/
def node? (d : Disk) (place : Place) : Option Node :=
  if place.names.isEmpty then some .directory else d.nodes.lookup place

/-- The name of a directory for itself. -/
def here : Bytes := [46]

/-- The name of a directory for the one above it. -/
def above : Bytes := [46, 46]

/-- The place that names lead to from a place, which is there. A name too long to be in a directory is told
from one that is not in it. -/
def walk (d : Disk) (place : Place) : List Bytes → Except SystemError Place
  | [] => .ok place
  | name :: r =>
    match d.node? place with
    | some .directory =>
      if name = here then walk d place r
      else if name = above then walk d place.parent r
      else if Path.longestName < name.length then .error .nameTooLong
      else
        let next := { place with names := place.names ++ [name] }
        if (d.node? next).isSome then walk d next r else .error .notFound
    | _ => .error .notDirectory

def locate (d : Disk) (p : Path) : Except SystemError Place :=
  match p.refused? with
  | some e => .error e
  | none => d.walk ⟨p.isAbsolute, []⟩ p.names

/-- What is at a path, to be used. -/
def find (d : Disk) (p : Path) : Except SystemError Node :=
  if Path.longest < p.bytes.length then .error (p.refused?.getD .nameTooLong)
  else
    match d.locate p with
    | .error e => .error e
    | .ok place =>
      match d.node? place with
      | some node => .ok node
      | none => .error .notFound

/-- The path of a place without detours. -/
def pathOf (d : Disk) (place : Place) : Path :=
  let below := place.names.flatMap (Path.slash :: ·)
  if !place.fromRoot then ⟨d.workingDirectory ++ below⟩
  else if below.isEmpty then ⟨[Path.slash]⟩
  else ⟨below⟩

/-- The path from the root, without detours, of something that is there. However long the way to it is written,
each step is a short one. -/
def canonical (d : Disk) (p : Path) : Except SystemError Path := (d.locate p).map d.pathOf

/-- A file opened as an archive. -/
def openArchive (d : Disk) (p : Path) : Except SystemError Archive := (d.find p).map Node.archive

/-- The contents of a file. -/
def read (d : Disk) (p : Path) : Except SystemError Bytes :=
  match d.openArchive p with
  | .error e => .error e
  | .ok a =>
    match a.failure with
    | some e => .error e
    | none => .ok a.bytes

def setNode (d : Disk) (place : Place) (node : Node) : Disk :=
  { d with nodes := (place, node) :: d.nodes.filter (·.1 != place) }

/-- Makes the directories on the way that names lead from a place, as far as they are missing, and gives the
last of them. What is in the way ends it; the directories before it stay. -/
def makeDirectories (d : Disk) (place : Place) : List Bytes → Disk × Option Place
  | [] => (d, some place)
  | name :: r =>
    if name = here then d.makeDirectories place r
    else if name = above then d.makeDirectories place.parent r
    else if Path.longestName < name.length then (d, none)
    else
      let next := { place with names := place.names ++ [name] }
      match d.node? next with
      | some .directory => d.makeDirectories next r
      | some _ => (d, none)
      | none => (d.setNode next .directory).makeDirectories next r

/-- The disk with a node in a directory, in place of a file or a program of its name. -/
def setIn (d : Disk) (directory : Place) (name : Bytes) (node : Node) : Disk :=
  let place := { directory with names := directory.names ++ [name] }
  match d.node? place with
  | some .directory => d
  | _ => if Path.longestName < name.length then d else d.setNode place node

/-- The disk with a file or a program at a path, and with the directories that it takes. If the path ends in
the name of a directory, these are all that is made. -/
def writeFile (d : Disk) (p : Path) (node : Node) : Disk :=
  let names := p.names.filter (· != here)
  match d.makeDirectories ⟨p.isAbsolute, []⟩ names.dropLast, p.names.getLast? with
  | (d, some directory), some name => if name = here || name = above then d else d.setIn directory name node
  | (d, _), _ => d

/-- The disk with a node written at a path. A directory that is there already stays as it is. What cannot be
written is left out. -/
def write (d : Disk) (p : Path) (node : Node) : Disk :=
  if p.refused?.isSome || Path.longest < p.bytes.length then d
  else
    match node with
    | .directory => (d.makeDirectories ⟨p.isAbsolute, []⟩ p.names).1
    | node => d.writeFile p node

/-- The disk without the file or the program at a path; directories stay. -/
def remove (d : Disk) (p : Path) : Disk :=
  match d.find p, d.locate p with
  | .ok .directory, _ => d
  | .ok _, .ok place => { d with nodes := d.nodes.filter (·.1 != place) }
  | _, _ => d

end Disk

/-- A change to the files. -/
inductive Change
  | write (path : Path) (node : Node)
  | remove (path : Path)
  deriving Repr

/-- Files that change in the course of time. -/
structure Files where
  disk : Disk
  upcoming : List (Time × Change) := []
  deriving Repr

namespace Files

/-- The disk after a change. -/
def apply (d : Disk) : Change → Disk
  | .write path node => d.write path node
  | .remove path => d.remove path

/-- The disk at a time, when the changes up to then have been made. -/
def diskAt (f : Files) (now : Time) : Disk :=
  ((f.upcoming.mergeSort fun x y => x.1 ≤ y.1).filter (·.1 ≤ now)).foldl (fun d x => apply d x.2) f.disk

/-- The files as they are at a time; changes to come are forgotten. -/
def settle (f : Files) (now : Time) : Files := { disk := f.diskAt now }

end Files

end FlakeImage
