import FlakeImage.Disk
import FlakeImage.Program.Basic
import FlakeImage.Rehearsal.Cue

/-! # Stand-ins for programs

The programs of a rehearsal are files on its disk. Each time one is started it plays its next act, and it is
recorded with what arguments it was started and how much input it read. -/

namespace FlakeImage.Rehearsal

/-- When a program reads its input: before it writes, after it, or not at all. -/
inductive Reading
  | first
  | last
  | never
  deriving DecidableEq, Repr

/-- What a program does when it is started, and how it ends if it does. -/
structure Act where
  reading : Reading := .first
  stdout : Bytes := []
  stderr : Bytes := []
  ending : Option ExitStatus := some (.code 0)
  deriving Repr

/-- A start of a program. -/
structure Appearance where
  program : String
  arguments : List String
  /-- How many bytes it read, if it read its input. -/
  inputSize : Option Nat
  deriving DecidableEq, Repr

/-- The acts to come of each program, and all starts so far. -/
structure Troupe where
  acts : List (String × List Act) := []
  appearances : List Appearance := []
  deriving Repr

/-- How much a pipe holds that nobody reads. -/
def pipeCapacity : Nat := 65536

/-- How long an argument of a program must not be. -/
def argumentLimit : Nat := 131072

namespace Act

/-- What of its input a program is passed. -/
def fed (act : Act) : Option Archive → Except SystemError Unit
  | none => .ok ()
  | some a =>
    match a.failure with
    | some e => .error e
    | none =>
      if act.reading = .never && pipeCapacity < a.bytes.length then .error .brokenPipe else .ok ()

/-- How much a program reads of its input. -/
def inputSize (act : Act) (input : Option Archive) : Option Nat :=
  if act.reading = .never then none else some ((input.map (·.bytes.length)).getD 0)

/-- What is seen of the program, if it ends. -/
def completion (act : Act) (input : Option Archive) : Option Completion :=
  act.ending.map fun status => ⟨.ok ⟨status, act.stdout, act.stderr⟩, act.fed input⟩

end Act

namespace Troupe

/-- The next act of a program; without one it does nothing and ends with success. -/
def nextAct (t : Troupe) (program : String) : Act := (((t.acts.lookup program).getD []).head?).getD {}

/-- The acts after one has been played. -/
def played (program : String) : List (String × List Act) → List (String × List Act)
  | [] => []
  | (name, acts) :: r =>
    if name = program then (name, acts.tail) :: r else (name, acts) :: played program r

/-- A text with a null character, which no program can be passed. -/
def hasNull (s : String) : Bool := s.toList.contains '\x00'

/-- What is reported of a program without a slash in its name: it is looked for in directories elsewhere, where
there are no files. -/
def elsewhere (name : Bytes) : SystemError :=
  if Path.longestName < name.length then .nameTooLong
  else if name = Disk.here || name = Disk.above then .denied
  else .notFound

/-- The program at a path on a disk, or why it cannot be run. -/
def programAt (d : Disk) (name : String) : Except SystemError String :=
  let path := Path.ofString name
  if !path.bytes.contains Path.slash then .error (elsewhere path.bytes)
  else
    match d.find path with
    | .error e => .error e
    | .ok (.program p) => .ok p
    | .ok _ => .error .denied

/-- The program that a launch starts. -/
def launched (d : Disk) (launch : Launch) : Except SystemError String :=
  if hasNull launch.program || launch.arguments.any hasNull then
    .error (.text "nul byte found in provided data")
  else
    match programAt d launch.program with
    | .error e => .error e
    | .ok p =>
      if launch.arguments.any fun a => argumentLimit ≤ (Utf8.encode a).length then .error (.code 7)
      else .ok p

/-- The act of a program. -/
def play (program : String) (launch : Launch) (t : Troupe) : Reply Troupe Completion :=
  let act := t.nextAct program
  { world :=
      { acts := played program t.acts
        appearances := t.appearances ++ [⟨program, launch.arguments, act.inputSize launch.input⟩] }
    outcome := (act.completion launch.input).map (0, ·)
    isAwaited := true }

/-- The starts of one program. -/
def appearancesOf (t : Troupe) (program : String) : List Appearance :=
  t.appearances.filter (·.program == program)

/-- The programs in a world that has files and a troupe as parts. -/
def programs {σ : Type} (files : σ → Files) (part : Part σ Troupe) : Programs σ where
  start launch now world :=
    match launched ((files world).diskAt now) launch with
    | .error e => .error e
    | .ok program => .ok (part.lift (fun _ => play program launch) now world)

end Troupe

end FlakeImage.Rehearsal
