/-! # Images

An image is known by the id that the container runtime gives it, and found again by a tag. -/

namespace FlakeImage

/-- The id of an image, derived from its content by the runtime. -/
structure ImageId where
  text : String
  deriving DecidableEq, Repr

/-- The tag of an image that a plan has built: the plan's name and the id. -/
def planTag (plan : String) (image : ImageId) : String := plan ++ ":" ++ image.text

end FlakeImage
