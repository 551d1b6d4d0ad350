import Chancery.Text.Blank
import Chancery.Text.Digits

/-!
# Identifiers

Every record carries a 128-bit identifier. It has one canonical text, thirty-two lower-case
hexadecimal digits in groups of 8, 4, 4, 4 and 12, and that text is what is stored and compared.
Callers may spell it in three further ways: without hyphens, in braces, or after `urn:uuid:`; the
case of letters never matters.

Reading is split so that each shape is one line: strip the wrapping, drop the hyphens at the group
boundaries, read thirty-two digits.

## Main definitions

* `Identifier` — a number of 128 bits
* `Identifier.text` — the canonical text
* `Identifier.read?` — any accepted spelling, nothing around it
* `Identifier.parse?` — the same after trimming
-/

namespace Chancery

/-- How many identifiers there are: two to the power of 128. -/
abbrev identifierCount : Nat := 0x100000000000000000000000000000000

/-- A 128-bit identifier. -/
structure Identifier where
  number : Nat
  number_lt : number < identifierCount
  deriving DecidableEq

namespace Identifier

/-- The identifier with a given number, taken modulo their count. -/
def ofNat (n : Nat) : Identifier := ⟨n % identifierCount, Nat.mod_lt _ (by decide)⟩

instance : Inhabited Identifier := ⟨ofNat 0⟩

@[ext] theorem ext {a b : Identifier} (h : a.number = b.number) : a = b := by
  cases a; cases b; simp_all

theorem ofNat_number (a : Identifier) : ofNat a.number = a :=
  ext (Nat.mod_eq_of_lt a.number_lt)

/-- The lengths of the digit groups of the hyphenated form. -/
def groups : List Nat := [8, 4, 4, 4, 12]

/-- Puts a hyphen between consecutive groups of the given lengths. -/
def hyphenate : List Nat → List Char → List Char
  | [], _ => []
  | [_], s => s
  | n :: ns, s => s.take n ++ '-' :: hyphenate ns (s.drop n)

/-- Removes the hyphens between groups of the given lengths; fails if one is missing or the text
has another length. -/
def unhyphenate? : List Nat → List Char → Option (List Char)
  | [], s => if s.isEmpty then some [] else none
  | [n], s => if s.length = n then some s else none
  | n :: ns, s =>
    match s.drop n with
    | '-' :: rest => (unhyphenate? ns rest).map (s.take n ++ ·)
    | _ => none

/-- The canonical text as characters. -/
def chars (a : Identifier) : List Char := hyphenate groups (Text.fixedDigits 16 32 a.number)

-- Irreducible, because two rows are never compared by spelling out the digits in them.
/-- The canonical text: lower case, hyphenated. -/
@[irreducible] def text (a : Identifier) : String := String.ofList a.chars

@[simp] theorem toList_text (a : Identifier) : a.text.toList = a.chars := by simp [text]

/-- The identifier that thirty-two hexadecimal digits spell. -/
def ofDigits? (ds : List Char) : Option Identifier :=
  if ds.length = 32 then
    (ds.mapM (Text.digitValue? 16)).map fun vs => ofNat (Text.digitsValue 16 vs)
  else none

/-- The identifier that a hyphenated text spells. -/
def ofHyphenated? (s : List Char) : Option Identifier :=
  (unhyphenate? groups s).bind ofDigits?

/-- The mark in front of the form used for resource names. -/
def urnMark : List Char := "urn:uuid:".toList

/-- Reads any accepted spelling: thirty-two digits, hyphenated, hyphenated in braces, or
hyphenated after `urn:uuid:` in any case. Nothing may surround it. -/
def readChars? (s : List Char) : Option Identifier :=
  if s.length = 32 then ofDigits? s
  else if s.length = 36 then ofHyphenated? s
  else if s.length = 38 then
    match s with
    | '{' :: rest => if rest.getLast? = some '}' then ofHyphenated? rest.dropLast else none
    | _ => none
  else if s.length = 45 ∧ (s.take 9).map Char.toLower = urnMark then ofHyphenated? (s.drop 9)
  else none

@[inherit_doc readChars?]
def read? (s : String) : Option Identifier := readChars? s.toList

/-- Reads any accepted spelling with blanks around it. -/
def parse? (s : String) : Option Identifier := readChars? (Text.trimChars s.toList)

end Identifier

end Chancery
