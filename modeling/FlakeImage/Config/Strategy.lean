import FlakeImage.Json.Decode
import FlakeImage.Number.Decimal

/-! # Load strategies

How often an archive is loaded and how long to wait in between. In JSON a strategy is an object with the
member `strategy`, or an array with that name in front. -/

namespace FlakeImage

open Json

/-- How an archive is loaded into the runtime. -/
inductive LoadStrategy
  /-- Up to so many attempts, with a pause between them. -/
  | retry (attempts delay : Nat)
  /-- A pause, then one attempt. -/
  | preDelay (delay : Nat)
  deriving DecidableEq, Repr

namespace LoadStrategy

/-- The attempts made if nothing else is said. -/
def defaultAttempts : Nat := 2

/-- The milliseconds between attempts if nothing else is said. -/
def defaultDelay : Nat := 1000

instance : Inhabited LoadStrategy := ⟨.retry defaultAttempts defaultDelay⟩

/-- The number of attempts, at least one. -/
def maxAttempts : LoadStrategy → Nat
  | .retry attempts _ => max attempts 1
  | .preDelay _ => 1

theorem maxAttempts_pos (s : LoadStrategy) : 1 ≤ s.maxAttempts := by
  cases s with
  | retry attempts delay => exact Nat.le_max_right ..
  | preDelay delay => exact Nat.le_refl 1

/-- The length of each pause in milliseconds. -/
def delay : LoadStrategy → Nat
  | .retry _ delay => delay
  | .preDelay delay => delay

/-- The pause before the first attempt. -/
def initialDelay? : LoadStrategy → Option Nat
  | .retry .. => none
  | .preDelay delay => some delay

/-- A whole number of 32 bits. -/
def number32 : Decoder Nat := Decoder.natural Number.max32 "u32"

/-- A whole number of 64 bits. -/
def number64 : Decoder Nat := Decoder.natural Number.max64 "u64"

/-- The names of the strategies. -/
inductive Kind
  | retry
  | preDelay
  deriving DecidableEq, Repr

/-- The strategy's name in JSON. -/
def Kind.decode (v : Value) : Except String Kind :=
  match v with
  | .string name =>
    if name = "retry" then .ok .retry
    else if name = "pre_delay" then .ok .preDelay
    else .error ("unknown variant `" ++ name ++ "`, expected `retry` or `pre_delay`")
  | v => .error (v.mismatch "variant identifier")

/-- What an error calls the array of a strategy. -/
def Kind.expected : Kind → String
  | .retry => "struct variant LoadStrategy::Retry with 2 elements"
  | .preDelay => "struct variant LoadStrategy::PreDelay with 1 element"

/-- The rest of an array has `n` items and no more. -/
def exactly (items : List Value) (n : Nat) : Except String Unit :=
  if items.length ≤ n then .ok ()
  else .error (wrongLength items.length (counted n ++ " in sequence"))

/-- A strategy from the members of an object. -/
def decodeMembers (members : Members) : Kind → Except String LoadStrategy
  | .retry => do
    let attempts ← Decoder.field? members "attempts" number32
    let delay ← Decoder.field? members "delay_ms" number64
    let attempts ← Decoder.required "attempts" attempts
    let delay ← Decoder.required "delay_ms" delay
    .ok (.retry attempts delay)
  | .preDelay => do
    let delay ← Decoder.field? members "delay_ms" number64
    let delay ← Decoder.required "delay_ms" delay
    .ok (.preDelay delay)

/-- A strategy from the items of an array after its name. -/
def decodeItems (items : List Value) (kind : Kind) : Except String LoadStrategy :=
  match kind with
  | .retry => do
    let attempts ← Decoder.item items 0 kind.expected number32
    let delay ← Decoder.item items 1 kind.expected number64
    let _ ← exactly items 2
    .ok (.retry attempts delay)
  | .preDelay => do
    let delay ← Decoder.item items 0 kind.expected number64
    let _ ← exactly items 1
    .ok (.preDelay delay)

/-- A strategy from an object or an array. -/
def decode : Decoder LoadStrategy
  | .object members =>
    match Members.get? members "strategy" with
    | none => .error (missingField "strategy")
    | some name => do
      let kind ← Kind.decode name
      decodeMembers members kind
  | .array [] => .error (missingField "strategy")
  | .array (name :: items) => do
    let kind ← Kind.decode name
    decodeItems items kind
  | v => .error (v.mismatch "internally tagged enum LoadStrategy")

/-- The JSON value of a strategy. -/
def encode : LoadStrategy → Value
  | .retry attempts delay =>
    .ofMembers [("strategy", .string "retry"), ("attempts", .ofNat attempts), ("delay_ms", .ofNat delay)]
  | .preDelay delay => .ofMembers [("strategy", .string "pre_delay"), ("delay_ms", .ofNat delay)]

end LoadStrategy

end FlakeImage
