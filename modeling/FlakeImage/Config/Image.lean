import FlakeImage.Json.Decode
import FlakeImage.Json.Reader
import FlakeImage.System

/-! # Build configuration

What a caller asks of the builder: `ImageConfig` for this builder, or the settings of another one, told
apart by the member `builder`. Empty texts count as unset. -/

namespace FlakeImage

open Json

/-- The builder's name. -/
def builderId : String := "docker:nix"

/-- What can be configured for an image. -/
structure ImageConfig where
  enabled : Bool := false
  name : Option String := none
  system : Option String := none
  deriving DecidableEq, Repr

/-- A configuration with nothing left open. -/
structure ResolvedConfig where
  name : String
  system : String
  deriving DecidableEq, Repr

def defaultImageName (plan : String) : String := plan ++ "-image"

namespace ImageConfig

/-- The name and the system to build, for a plan on a host. -/
def resolve (c : ImageConfig) (plan hostArch : String) : Except BuildError ResolvedConfig :=
  match resolveSystem c.system hostArch with
  | .error e => .error e
  | .ok system => .ok ⟨(nonempty? c.name).getD (defaultImageName plan), system⟩

/-- A configuration is settled unless there is no system. -/
theorem resolve_eq_error_iff {c : ImageConfig} {plan hostArch : String} {e : BuildError} :
    c.resolve plan hostArch = .error e ↔ resolveSystem c.system hostArch = .error e := by
  unfold resolve
  cases resolveSystem c.system hostArch with
  | error e' => simp
  | ok system => simp

/-- The configuration of a record's fields, those not given left at their defaults. -/
def ofFields (enabled : Option Bool) (name system : Option (Option String)) : ImageConfig :=
  ⟨enabled.getD false, name.getD none, system.getD none⟩

/-- An item of an array, if the array has so many. -/
def item? {α : Type} (items : List Value) (i : Nat) (d : Decoder α) : Except String (Option α) :=
  match items[i]? with
  | none => .ok none
  | some v => (d v).map some

/-- A configuration from an object or an array. -/
def decode : Decoder ImageConfig
  | .object members => do
    let enabled ← Decoder.field? members "enabled" Decoder.bool
    let name ← Decoder.field? members "name" Decoder.text?
    let system ← Decoder.field? members "system" Decoder.text?
    .ok (ofFields enabled name system)
  | .array items => do
    let enabled ← item? items 0 Decoder.bool
    let name ← item? items 1 Decoder.text?
    let system ← item? items 2 Decoder.text?
    let _ ← Decoder.atMost items 3
    .ok (ofFields enabled name system)
  | v => .error (v.mismatch "struct DockerNixConfig")

def members (c : ImageConfig) : List (String × Value) :=
  [("enabled", .bool c.enabled), ("name", .ofText? c.name), ("system", .ofText? c.system)]

/-- The JSON value of a configuration. -/
def encode (c : ImageConfig) : Value := .ofMembers c.members

end ImageConfig

/-- The configuration of a build as it is handed to the builder. -/
inductive BuildConfig
  | image (c : ImageConfig)
  | other (builder : String) (settings : Value)
  deriving Repr

namespace BuildConfig

def kind : BuildConfig → String
  | .image _ => builderId
  | .other builder _ => builder

/-- The result of decoding as an error of the builder. -/
def lift {α : Type} : Except String α → Except BuildError α
  | .ok a => .ok a
  | .error text => .error (.json (.mismatch text))

/-- The configuration that a value describes. -/
def ofValue (v : Value) : Except BuildError BuildConfig :=
  match (v.get? "builder").bind Value.text? with
  | none => (lift (ImageConfig.decode v)).map .image
  | some builder =>
    if builder = builderId then (lift (ImageConfig.decode v)).map .image
    else .ok (.other builder v)

/-- A fault in JSON text as an error. -/
def jsonError : Fault → JsonError
  | .malformed => .malformed
  | .truncated => .truncated

/-- The value of a JSON file's contents. -/
def parse (contents : Bytes) : Except JsonError Value :=
  match Value.ofBytes contents with
  | .ok v => .ok v
  | .error fault => .error (jsonError fault)

/-- The configuration that a file describes, from what reading it gave. -/
def ofFile (contents : Except SystemError Bytes) : Except BuildError BuildConfig :=
  match contents with
  | .error e => .error (.system e)
  | .ok contents =>
    match parse contents with
    | .error e => .error (.json e)
    | .ok v => ofValue v

end BuildConfig

end FlakeImage
