import Chancery.Text.Lowercase.Table
import Chancery.Text.Ranges

/-!
# Lower case

The lower case of a text by the full rules of Unicode: every character by its own mapping, the
capital I with a dot above as a small i and a combining dot, and the capital sigma as a final
sigma at the end of a word. A sigma ends a word if a cased letter comes before it and none comes
after, characters without influence on case being skipped on both sides.

The state of a left-to-right walk is the reversed text already passed, which is where the rule for
the sigma looks back.
-/

namespace Chancery.Text

/-- Whether a character is a letter of either case or of title case. -/
def isCased (c : Char) : Bool := inRanges casedRanges c

/-- Whether a character has no influence on the case of its neighbours. -/
def isCaseIgnorable (c : Char) : Bool := inRanges caseIgnorableRanges c

/-- The lower-case letter of a character that has one of its own. -/
def lowerChar (c : Char) : Char :=
  let n := c.toNat
  match lowercaseRuns.find? fun r => r.first ≤ n && n ≤ r.last && (n - r.first) % r.step == 0 with
  | some r => Char.ofNat ((n : Int) + r.shift).toNat
  | none => c

/-- Whether the first character with influence on case is a letter. -/
def startsCased (s : List Char) : Bool :=
  match s.dropWhile isCaseIgnorable with
  | c :: _ => isCased c
  | [] => false

/-- Lower case of the rest of a text, given the reversed text before it. -/
def lowerFrom (before : List Char) : List Char → List Char
  | [] => []
  | c :: rest =>
    let lowered :=
      if c = 'Σ' then [if startsCased before && !startsCased rest then 'ς' else 'σ']
      else if c = 'İ' then ['i', '\u0307']
      else [lowerChar c]
    lowered ++ lowerFrom (c :: before) rest

/-- The lower case of a text. -/
def lowerChars (s : List Char) : List Char := lowerFrom [] s

@[inherit_doc lowerChars]
def lower (s : String) : String := String.ofList (lowerChars s.toList)

/-- The lower case of ASCII letters; all else is kept. -/
def asciiLower (s : String) : String := String.ofList (s.toList.map Char.toLower)

end Chancery.Text
