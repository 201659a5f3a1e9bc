/-!
# White space

The characters with the Unicode property of white space, and trimming by a class of characters.
-/

namespace EntitySync

namespace Text

/-- The character is white space. -/
def isBlank (c : Char) : Bool :=
  let n := c.toNat
  (0x09 ≤ n && n ≤ 0x0D) || n = 0x20 || n = 0x85 || n = 0xA0 || n = 0x1680 ||
    (0x2000 ≤ n && n ≤ 0x200A) || n = 0x2028 || n = 0x2029 || n = 0x202F || n = 0x205F ||
    n = 0x3000

/-- Drop the characters of a class from the end. -/
def trimEnd (drop : Char → Bool) (cs : List Char) : List Char :=
  (cs.reverse.dropWhile drop).reverse

/-- Drop the characters of a class from both ends. -/
def trim (drop : Char → Bool) (cs : List Char) : List Char :=
  trimEnd drop (cs.dropWhile drop)

end Text

end EntitySync
