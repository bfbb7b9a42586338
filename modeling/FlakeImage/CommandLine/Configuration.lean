import FlakeImage.CommandLine.Error
import FlakeImage.Config.Image
import FlakeImage.Config.Settings

/-! # What flags change

Flags for the load strategy take precedence over the settings, and flags for the name and the system over the
configuration file. -/

namespace FlakeImage.CommandLine

/-- The attempts and the delay that a flag leaves as they are. -/
def retryOf : LoadStrategy → Nat × Nat
  | .retry attempts delay => (attempts, delay)
  | .preDelay _ => (LoadStrategy.defaultAttempts, LoadStrategy.defaultDelay)

/-- The load strategy after the flags. -/
def Overrides.apply (o : Overrides) (load : LoadStrategy) : LoadStrategy :=
  match o.preDelay with
  | some delay => .preDelay delay
  | none =>
    if o.attempts.isNone && o.retryDelay.isNone then load
    else .retry (o.attempts.getD (retryOf load).1) (o.retryDelay.getD (retryOf load).2)

/-- The settings after the flags. -/
def Overrides.settings (o : Overrides) (s : Settings) : Settings := { s with load := o.apply s.load }

abbrev FileReader := Path → Except SystemError Bytes

/-- The configuration that is used if there is no file. -/
def defaultConfig : ImageConfig := { enabled := true }

def fileConfig (read : FileReader) (path : Path) : Except CommandError BuildConfig :=
  match read path with
  | .error e => .error (.unreadable path e)
  | .ok contents =>
    match BuildConfig.parse contents with
    | .error e => .error (.malformed path e)
    | .ok v => (BuildConfig.ofValue v).mapError (.invalid path)

/-- The configuration after the flags. One for another builder stays as it is. -/
def overridden (name system : Option String) : BuildConfig → Except CommandError BuildConfig
  | .image c =>
    if c.enabled then .ok (.image { c with name := name.or c.name, system := system.or c.system })
    else .error .disabled
  | config => .ok config

/-- The configuration of a build. -/
def loadConfig (read : FileReader) (path : Option Path) (name system : Option String) :
    Except CommandError BuildConfig :=
  match path with
  | none => overridden name system (.image defaultConfig)
  | some path =>
    match fileConfig read path with
    | .error e => .error e
    | .ok config => overridden name system config

end FlakeImage.CommandLine
