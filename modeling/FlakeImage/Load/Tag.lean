import FlakeImage.Error
import FlakeImage.Text.Lines

/-! # Default tags

The runtime ends a successful response with a line that names the tag it gave the image. -/

namespace FlakeImage

/-- What stands before the tag. -/
def loadedImage : String := "Loaded image: "

/-- The text after `start`. -/
def afterStart? : List Char → List Char → Option (List Char)
  | [], s => some s
  | c :: start, d :: s => if c = d then afterStart? start s else none
  | _ :: _, [] => none

/-- The tag in the last line of a response, which must not be blank. -/
def tagIn? (line : List Char) : Option (List Char) :=
  ((afterStart? loadedImage.toList line).map Text.chomp).filter fun tag => !Text.isBlankText tag

/-- The tag that the last line of a response names. -/
def defaultTag (line : String) : Except LoadError String :=
  match tagIn? line.toList with
  | some tag => .ok (String.ofList tag)
  | none => .error (.unrecognised line)

end FlakeImage
