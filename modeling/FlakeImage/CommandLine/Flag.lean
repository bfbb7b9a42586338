import FlakeImage.CommandLine.Token

/-! # Flags of a command

Flags fill a record of type `α`. A flag with a value takes what is attached to it, or else the next argument
if that is a word. A value in an argument of its own is looked at when the next flag is known, or at the
end. -/

namespace FlakeImage.CommandLine

/-- Why a command line gives no command: it asks for the help or the version, or something is wrong. -/
inductive UsageError
  | help
  | version
  /-- There is nothing at all. -/
  | empty
  /-- There are flags, but no command. -/
  | noCommand
  /-- A flag that has to be there is not. -/
  | missingFlag
  | unknownArgument
  | unknownCommand
  /-- A flag is there twice. -/
  | repeated
  /-- A flag lacks its value, or has an empty path for it. -/
  | noValue
  /-- A value is no number, or too large a number. -/
  | badNumber
  /-- A flag has a value, but takes none. -/
  | surplusValue
  deriving DecidableEq, Repr

/-- What a flag does with the record. -/
inductive Action (α : Type)
  | help
  | version
  /-- A flag without a value. -/
  | switch (isGiven : α → Bool) (set : α → α)
  /-- A flag with a value. -/
  | value (isGiven : α → Bool) (set : String → α → Except UsageError α)

/-- A flag with its name and perhaps a letter. -/
structure Flag (α : Type) where
  name : String
  letter : Option Char := none
  action : Action α

/-- A record that is being filled. -/
structure Filling (α : Type) where
  record : α
  /-- A flag whose value has not been looked at, with the value if it has come. -/
  pending : Option (Flag α × Option String) := none

namespace Flag

variable {α : Type}

/-- The record with the flag's value. -/
def assign (f : Flag α) (v : String) (record : α) : Except UsageError α :=
  match f.action with
  | .value isGiven set => if isGiven record then .error .repeated else set v record
  | _ => .error .surplusValue

/-- The record with a flag that has no value. -/
def turnOn (f : Flag α) (record : α) : Except UsageError α :=
  match f.action with
  | .help => .error .help
  | .version => .error .version
  | .switch isGiven set => if isGiven record then .error .repeated else .ok (set record)
  | .value .. => .error .noValue

def takesValue (f : Flag α) : Bool :=
  match f.action with
  | .value .. => true
  | _ => false

end Flag

namespace Filling

variable {α : Type}

/-- The record once the value that is pending has been looked at. -/
def settle (x : Filling α) : Except UsageError α :=
  match x.pending with
  | none => .ok x.record
  | some (_, none) => .error .noValue
  | some (f, some v) => f.assign v x.record

/-- A flag with a value attached to it. -/
def attached (x : Filling α) (f : Flag α) (v : String) : Except UsageError (Filling α) := do
  let record ← x.settle
  let record ← f.assign v record
  .ok { record }

/-- A flag whose value is still to come. -/
def awaiting (x : Filling α) (f : Flag α) : Except UsageError (Filling α) := do
  let record ← x.settle
  .ok { record, pending := some (f, none) }

/-- A flag without a value. -/
def turnOn (x : Filling α) (f : Flag α) : Except UsageError (Filling α) := do
  let record ← x.settle
  let record ← f.turnOn record
  .ok { record }

def long (flags : List (Flag α)) (x : Filling α) (name : String) (value : Option String) :
    Except UsageError (Filling α) :=
  match flags.find? (·.name == name), value with
  | none, _ => .error .unknownArgument
  | some f, some v => if f.takesValue then x.attached f v else .error .surplusValue
  | some f, none => if f.takesValue then x.awaiting f else x.turnOn f

/-- Flags by their letters. What follows the letter of a flag with a value is the value, after an equals sign
or not. -/
def letters (flags : List (Flag α)) (x : Filling α) : List Char → Except UsageError (Filling α)
  | [] => .ok x
  | c :: s =>
    match flags.find? (·.letter == some c) with
    | none => .error .unknownArgument
    | some f =>
      if f.takesValue then
        match s with
        | [] => x.awaiting f
        | '=' :: v => x.attached f (String.ofList v)
        | v => x.attached f (String.ofList v)
      else do
        let x ← x.turnOn f
        letters flags x s

/-- A plain word: the value of the flag before it, if that has none yet. -/
def word (x : Filling α) (w : String) : Except UsageError (Filling α) :=
  match x.pending with
  | some (f, none) => .ok { x with pending := some (f, some w) }
  | _ => .error .unknownArgument

/-- The record that arguments fill. None of them may be there after the mark. -/
def run (flags : List (Flag α)) (x : Filling α) : List String → Except UsageError α
  | [] => x.settle
  | a :: r =>
    match Token.ofArgument a with
    | .mark => if r.isEmpty then x.settle else .error .unknownArgument
    | .long name value => do
      let x ← x.long flags name value
      run flags x r
    | .letters l => do
      let x ← x.letters flags l
      run flags x r
    | .word w => do
      let x ← x.word w
      run flags x r

end Filling

end FlakeImage.CommandLine
