import FlakeImage.Text.Quoted

/-! # Paths

The name of a file, a byte string that need not be text. -/

namespace FlakeImage

/-- The name of a file. -/
structure Path where
  bytes : Bytes
  deriving DecidableEq, Repr

namespace Path

/-- The path that a text names. -/
def ofString (s : String) : Path := ⟨Utf8.encode s⟩

/-- The path as it is shown. -/
def display (p : Path) : String := Utf8.lossy p.bytes

/-- The path as it is shown in quotes. -/
def quoted (p : Path) : String := Text.quoteBytes p.bytes

end Path

end FlakeImage
