/-!
# Search patterns

A pattern matches a whole text. In it `%` stands for any number of characters, `_` for exactly
one, and every other character for itself, ASCII letters in either case. There is no way to write
a literal `%` or `_`. Texts and patterns end at their first NUL.

Matching every tail of the pattern against every tail of the text costs time in proportion to the
two lengths, however many `%` there are: the answers for one tail of the text are a row, and the
row for the next longer tail is computed from it.

## Main definitions

* `Text.matchesPattern` — whether a pattern matches a text
-/

namespace Chancery.Text

/-- What a character compares as: ASCII letters without their case, and the two code points that
are no characters as the replacement character. -/
def foldPatternChar (c : Char) : Char :=
  if c.toNat = 0xFFFE ∨ c.toNat = 0xFFFF then '\uFFFD' else c.toLower

/-- A text up to its first NUL. -/
def untilNul (s : List Char) : List Char := s.takeWhile (· ≠ '\x00')

/-- Which tails of a pattern match the empty text, the whole pattern first. -/
def emptyRow : List Char → List Bool
  | [] => [true]
  | p :: ps =>
    let row := emptyRow ps
    (p = '%' && row.headD false) :: row

/-- Which tails of a pattern match a text that begins with `c`, given which tails match the rest
of that text. -/
def consRow (c : Char) : List Char → List Bool → List Bool
  | [], _ => [false]
  | p :: ps, old =>
    let row := consRow c ps old.tail
    let here :=
      if p = '%' then row.headD false || old.headD false
      else (p = '_' || foldPatternChar p = foldPatternChar c) && old.tail.headD false
    here :: row

/-- Whether a pattern matches a text. -/
def matchesPattern (pattern text : List Char) : Bool :=
  let pattern := untilNul pattern
  ((untilNul text).foldr (fun c row => consRow c pattern row) (emptyRow pattern)).headD false

end Chancery.Text
