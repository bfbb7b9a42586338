/-! # White space

`isBlank` holds of the characters with the Unicode property White_Space; trimming removes them. -/

namespace FlakeImage.Text

/-- The character is white space. -/
def isBlank (c : Char) : Bool :=
  let n := c.toNat
  (0x09 ≤ n && n ≤ 0x0D) || n == 0x20 || n == 0x85 || n == 0xA0 || n == 0x1680 ||
    (0x2000 ≤ n && n ≤ 0x200A) || n == 0x2028 || n == 0x2029 || n == 0x202F || n == 0x205F ||
    n == 0x3000

/-- `s` without its longest ending of characters that satisfy `p`. -/
def dropEndWhile (p : Char → Bool) (s : List Char) : List Char := (s.reverse.dropWhile p).reverse

/-- `s` without the white space in front. -/
def trimStart (s : List Char) : List Char := s.dropWhile isBlank

/-- `s` without the white space at both ends. -/
def trim (s : List Char) : List Char := dropEndWhile isBlank (trimStart s)

/-- `s` is empty or white space only. -/
def isBlankText (s : List Char) : Bool := s.all isBlank

end FlakeImage.Text
