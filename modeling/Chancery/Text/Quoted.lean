import Chancery.Text.Quoted.Table
import Chancery.Text.Ranges

/-!
# Quoted text

Text in double quotes, in which everything that could not be seen is spelled out: quotes and
backslashes behind a backslash, the common controls by their letters, and every other character
without a glyph of its own as `\u` with its number in braces. Messages that list several problems
quote the values in them, so that where a value ends is never in doubt.
-/

namespace Chancery.Text

/-- Whether a character has no glyph of its own. -/
def isHidden (c : Char) : Bool := inRanges hiddenRanges c

/-- A character as it stands between quotes. -/
def quoteChar (c : Char) : List Char :=
  if c = '"' then ['\\', '"']
  else if c = '\\' then ['\\', '\\']
  else if c = '\n' then ['\\', 'n']
  else if c = '\t' then ['\\', 't']
  else if c = '\r' then ['\\', 'r']
  else if c = '\x00' then ['\\', '0']
  else if isHidden c then
    '\\' :: 'u' :: '\x7b' :: Nat.toDigits 16 c.toNat ++ ['\x7d']
  else [c]

/-- A text in quotes. -/
def quoted (s : String) : String :=
  String.ofList ('"' :: s.toList.flatMap quoteChar ++ ['"'])

end Chancery.Text
