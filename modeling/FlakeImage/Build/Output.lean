import FlakeImage.Image
import FlakeImage.Json.Decode

/-! # The result of a build as JSON -/

namespace FlakeImage.ImageId

open Json

/-- The id of an image from the result of a build: an object or an array. -/
def decodeOutput : Decoder ImageId
  | .object members => do
    let id ← Decoder.field? members "artifact_id" Decoder.text
    let id ← Decoder.required "artifact_id" id
    .ok ⟨id⟩
  | .array items => do
    let id ← Decoder.item items 0 "struct BuildOutput with 1 element" Decoder.text
    let _ ← Decoder.atMost items 1
    .ok ⟨id⟩
  | v => .error (v.mismatch "struct BuildOutput")

/-- The result of a build. -/
def encodeOutput (image : ImageId) : Value := .ofMembers [("artifact_id", .string image.text)]

end FlakeImage.ImageId
