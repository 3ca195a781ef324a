/-!
# White space

The Unicode property White_Space, and the text that is left when white space is cut from both of
its ends. The property is a fixed table, so the zero width space (U+200B), the byte order mark
(U+FEFF) and the Mongolian vowel separator (U+180E), which lost the property or never had it, are
not white space here.
-/

namespace ModuleGraph.Text

/-- Whether a character has the Unicode property White_Space. -/
def isBlank (c : Char) : Bool :=
  let n := c.toNat
  (9 ≤ n && n ≤ 13) || n == 0x20 || n == 0x85 || n == 0xA0 || n == 0x1680 ||
    (0x2000 ≤ n && n ≤ 0x200A) || n == 0x2028 || n == 0x2029 || n == 0x202F || n == 0x205F ||
    n == 0x3000

/-- The text from its first to its last character that is not white space. -/
def trim (text : List Char) : List Char :=
  ((text.dropWhile isBlank).reverse.dropWhile isBlank).reverse

end ModuleGraph.Text
