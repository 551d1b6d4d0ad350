import Chancery.Text.Alphanumeric.Table
import Chancery.Text.Ranges

/-!
# Letters and numbers

The characters of names in texts of any language: whatever is a letter or a number, in any script.
It is wider than `Char.isAlphanum`, which knows ASCII only. Marks that are no letters, punctuation
and blanks of any kind end a name.
-/

namespace Chancery.Text

/-- Whether a character is a letter or a number. -/
def isAlphanumeric (c : Char) : Bool := c.isAlphanum || inRanges alphanumericRanges c

end Chancery.Text
