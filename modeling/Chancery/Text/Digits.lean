/-!
# Digits

Numbers are written and read digit by digit in two places that must agree exactly with each other:
identifiers are thirty-two hexadecimal digits, dates and times are decimal fields of fixed width.
Fixed-width writing is defined by recursion on the width, least significant digit last, so that
reading it back is one induction and comparing two texts of one width is comparing two numbers.

Scanning is bounded in the way date fields need: at least one digit, at most `max` of them, the
rest of the text handed back.

## Main definitions

* `Text.digitChar`, `Text.digitValue?` — one digit, up to base sixteen
* `Text.fixedDigits` — exactly `width` digits of a number
* `Text.digitsValue` — the number that a list of digit values denotes
* `Text.scanNumber?` — the longest run of at most `max` decimal digits
-/

namespace Chancery.Text

/-- The digit for `n`, in lower case; `'0'` beyond base sixteen. -/
def digitChar (n : Nat) : Char :=
  if n < 10 then Char.ofNat (48 + n) else if n < 16 then Char.ofNat (87 + n) else '0'

/-- What a digit of either case stands for, in the bases up to sixteen. -/
def digitValue? (base : Nat) (c : Char) : Option Nat :=
  let v :=
    if '0' ≤ c ∧ c ≤ '9' then c.toNat - 48
    else if 'a' ≤ c ∧ c ≤ 'f' then c.toNat - 87
    else if 'A' ≤ c ∧ c ≤ 'F' then c.toNat - 55
    else base
  if v < base then some v else none

/-- The last `width` digits of `n` in `base`, most significant first. -/
def fixedDigits (base : Nat) : Nat → Nat → List Char
  | 0, _ => []
  | width + 1, n => fixedDigits base width (n / base) ++ [digitChar (n % base)]

@[simp] theorem length_fixedDigits (base width n : Nat) :
    (fixedDigits base width n).length = width := by
  induction width generalizing n with
  | zero => rfl
  | succ width ih => simp [fixedDigits, ih]

/-- The number that digit values denote in `base`, most significant first. -/
def digitsValue (base : Nat) (ds : List Nat) : Nat :=
  ds.foldl (fun n d => n * base + d) 0

/-- A decimal of at least `width` digits. -/
def paddedDecimal (width n : Nat) : List Char :=
  if n < Nat.pow 10 width then fixedDigits 10 width n else Nat.toDigits 10 n

/-- Whether `c` is one of the ten ASCII digits. -/
def isDigit (c : Char) : Bool := '0' ≤ c && c ≤ '9'

/-- The value of decimal digits; characters that are no digits count as zero. -/
def decimalValue (cs : List Char) : Nat :=
  digitsValue 10 (cs.map fun c => (digitValue? 10 c).getD 0)

/-- Takes decimal digits from the front, at most `max` of them when a limit is given; fails on
none, and on more than a signed 64-bit word can hold. -/
def scanNumber? (max : Option Nat) (s : List Char) : Option (Nat × List Char) :=
  let run := s.takeWhile isDigit
  let digits := match max with
    | some m => run.take m
    | none => run
  if digits.isEmpty then none
  else
    let n := decimalValue digits
    if n ≤ 9223372036854775807 then some (n, s.drop digits.length) else none

end Chancery.Text
