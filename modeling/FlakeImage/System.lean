import FlakeImage.Error

/-! # Systems

The Nix system to build for: the one asked for, or the one of the host's processor. -/

namespace FlakeImage

/-- The system of each processor that images can be built for. -/
def systemTable : List (String × String) := [("aarch64", "aarch64-linux"), ("x86_64", "x86_64-linux")]

/-- A text that is not empty. -/
def nonempty? (s : Option String) : Option String := s.filter fun s => !s.isEmpty

/-- The system that is asked for, or else the one of the host; there is no guess for a processor outside
the table. -/
def resolveSystem (asked : Option String) (hostArch : String) : Except BuildError String :=
  match nonempty? asked with
  | some system => .ok system
  | none =>
    match systemTable.lookup hostArch with
    | some system => .ok system
    | none => .error (.unsupportedArchitecture hostArch)

theorem resolveSystem_eq_error {asked : Option String} {hostArch : String} {e : BuildError}
    (h : resolveSystem asked hostArch = .error e) : e = .unsupportedArchitecture hostArch := by
  unfold resolveSystem at h
  split at h
  · cases h
  · split at h
    · cases h
    · exact (Except.error.inj h).symm

end FlakeImage
