/-!
# Blank characters

A character is blank if it shows as empty space, whatever its width: blanks of a line, line ends and
page ends of all scripts. Characters without any width are not blank.
-/

namespace SetupRecipe.Text

/-- Whether a character shows as empty space. -/
def isBlank (c : Char) : Bool :=
  let n := c.toNat
  9 ≤ n && n ≤ 13 || n == 0x20 || n == 0x85 || n == 0xA0 || n == 0x1680
    || 0x2000 ≤ n && n ≤ 0x200A || n == 0x2028 || n == 0x2029 || n == 0x202F || n == 0x205F
    || n == 0x3000

/-- Whether a character shows as empty space within a line. -/
def isInlineBlank (c : Char) : Bool := isBlank c && c != '\n' && c != '\r'

end SetupRecipe.Text
