/-!
# Blank characters

Every reader of caller-supplied text in the library forgives surrounding space, and "space" has to
mean the same thing to all of them. It is the Unicode property `White_Space`, twenty-five code
points, which is wider than `Char.isWhitespace`: a no-break space pasted from a letter is trimmed
like any other.

Trimming is defined on lists of characters, where `dropWhile` has its lemmas, and lifted to
strings once.

## Main definitions

* `Text.isBlank` — the class itself
* `Text.trimChars`, `Text.trim` — blanks removed at both ends
* `Text.nonBlank?` — optional text in which blank counts as absent
-/

namespace Chancery.Text

/-- The characters with the Unicode property `White_Space`. -/
def isBlank (c : Char) : Bool :=
  let n := c.toNat
  (0x9 ≤ n && n ≤ 0xD) || n == 0x20 || n == 0x85 || n == 0xA0 || n == 0x1680
    || (0x2000 ≤ n && n ≤ 0x200A) || n == 0x2028 || n == 0x2029 || n == 0x202F || n == 0x205F
    || n == 0x3000

/-- Leading blanks removed. -/
def trimLeft (s : List Char) : List Char := s.dropWhile isBlank

/-- Trailing blanks removed. -/
def trimRight (s : List Char) : List Char := (s.reverse.dropWhile isBlank).reverse

/-- Blanks removed at both ends. -/
def trimChars (s : List Char) : List Char := trimRight (trimLeft s)

@[inherit_doc trimChars]
def trim (s : String) : String := String.ofList (trimChars s.toList)

@[simp] theorem toList_trim (s : String) : (trim s).toList = trimChars s.toList := by
  simp [trim]

@[simp] theorem trimLeft_nil : trimLeft [] = [] := rfl

/-- Optional text, trimmed; text that is all blank counts as absent. -/
def nonBlank? (s : Option String) : Option String :=
  (s.map trim).filter (· ≠ "")

@[simp] theorem nonBlank?_none : nonBlank? none = none := rfl

end Chancery.Text
