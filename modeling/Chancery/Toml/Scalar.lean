import Chancery.Calendar.Date
import Chancery.Json
import Chancery.Word

/-!
# TOML scalars

Strings in their four spellings, integers in four bases, real numbers, truth values, and dates and
times. Each reader takes its scalar from the front of a list of characters and hands back the
rest.

A real number stays a text, since no setting is one. A date or time becomes an object with one
field of a name that no record has: wherever a record is expected it reads as one that sets
nothing, and everywhere else it is refused.

## Main definitions

* `readString?`, `readKeyString?`
* `readScalar?` — everything but strings
-/

namespace Chancery.Toml

/-! ### Blanks -/

/-- The blanks within a line. -/
def isGap (c : Char) : Bool := c = ' ' || c = '\t'

/-- Removes blanks from the front. -/
def skipGap (s : List Char) : List Char := s.dropWhile isGap

/-- Takes a line break from the front. -/
def lineBreak? : List Char → Option (List Char)
  | '\n' :: rest => some rest
  | '\r' :: '\n' :: rest => some rest
  | _ => none

/-- Whether a character may stand in a comment or, unless it delimits, in a string: no control
character but the tab. -/
def isPlain (c : Char) : Bool := c = '\t' || (0x20 ≤ c.toNat && c.toNat ≠ 0x7F)

/-! ### Strings -/

/-- Takes the character of a numbered escape from the front. -/
def readNumbered? (digits : Nat) (s : List Char) : Option (Char × List Char) :=
  if (s.take digits).length = digits then
    match (s.take digits).mapM (Text.digitValue? 16) with
    | some vs =>
      let n := Text.digitsValue 16 vs
      if n.isValidChar then some (Char.ofNat n, s.drop digits) else none
    | none => none
  else none

/-- Takes the character of an escape from the front, where the backslash has been taken. -/
def readEscape? : List Char → Option (Char × List Char)
  | 'b' :: s => some ('\x08', s)
  | 't' :: s => some ('\t', s)
  | 'n' :: s => some ('\n', s)
  | 'f' :: s => some ('\x0c', s)
  | 'r' :: s => some ('\r', s)
  | '"' :: s => some ('"', s)
  | '\\' :: s => some ('\\', s)
  | 'u' :: s => readNumbered? 4 s
  | 'U' :: s => readNumbered? 8 s
  | _ => none

/-- Takes the rest of a string of one line from the front, given its characters so far in reverse.
Only strings in double quotes have escapes. -/
def readLine? (quote : Char) : Nat → List Char → List Char → Option (String × List Char)
  | 0, _, _ => none
  | fuel + 1, done, s =>
    match s with
    | [] => none
    | c :: rest =>
      if c = quote then some (String.ofList done.reverse, rest)
      else if c = '\\' ∧ quote = '"' then
        match readEscape? rest with
        | some (e, rest) => readLine? quote fuel (e :: done) rest
        | none => none
      else if isPlain c then readLine? quote fuel (c :: done) rest
      else none

/-- What follows an escaped line break: blanks, a line break, and then all blanks and line breaks
that come. -/
def afterEscapedBreak? (s : List Char) : Option (List Char) :=
  (lineBreak? (skipGap s)).map fun rest => skipBreaks rest
where
  /-- Removes blanks and line breaks from the front. -/
  skipBreaks : List Char → List Char
    | [] => []
    | c :: rest =>
      if isGap c ∨ c = '\n' then skipBreaks rest
      else if c = '\r' ∧ rest.head? = some '\n' then skipBreaks rest
      else c :: rest

/-- Takes the rest of a string of several lines from the front. One or two quotes belong to the
text; three end it, and up to two more in front of these belong to the text. -/
def readBlock? (quote : Char) : Nat → List Char → List Char → Option (String × List Char)
  | 0, _, _ => none
  | fuel + 1, done, s =>
    match s with
    | [] => none
    | c :: rest =>
      if c = quote then
        let run := (s.takeWhile (· = quote)).length
        if run < 3 then readBlock? quote fuel (List.replicate run quote ++ done) (s.drop run)
        else
          let inside := min (run - 3) 2
          some (String.ofList (List.replicate inside quote ++ done).reverse, s.drop (inside + 3))
      else if c = '\\' ∧ quote = '"' then
        match afterEscapedBreak? rest with
        | some rest => readBlock? quote fuel done rest
        | none =>
          match readEscape? rest with
          | some (e, rest) => readBlock? quote fuel (e :: done) rest
          | none => none
      else
        match lineBreak? s with
        | some rest => readBlock? quote fuel ('\n' :: done) rest
        | none => if isPlain c then readBlock? quote fuel (c :: done) rest else none

/-- Takes a string of one line from the front, where the opening quote has been taken. -/
def readKeyString? (quote : Char) (s : List Char) : Option (String × List Char) :=
  readLine? quote (s.length + 1) [] s

/-- Takes a string from the front, where the first quote has been taken. A line break right after
three opening quotes does not count. -/
def readString? (quote : Char) (s : List Char) : Option (String × List Char) :=
  match s with
  | q₁ :: q₂ :: rest =>
    if q₁ = quote ∧ q₂ = quote then
      let rest := (lineBreak? rest).getD rest
      readBlock? quote (rest.length + 1) [] rest
    else readKeyString? quote s
  | _ => readKeyString? quote s

/-! ### Numbers -/

/-- Whether a character is a digit in a base. -/
def isDigitIn (base : Nat) (c : Char) : Bool := (Text.digitValue? base c).isSome

/-- Takes digits from the front, single underscores between them. -/
def takeDigits (base : Nat) : List Char → List Char × List Char
  | '_' :: c :: rest =>
    if isDigitIn base c then
      let (digits, rest) := takeDigits base rest
      (c :: digits, rest)
    else ([], '_' :: c :: rest)
  | c :: rest =>
    if isDigitIn base c then
      let (digits, rest) := takeDigits base rest
      (c :: digits, rest)
    else ([], c :: rest)
  | [] => ([], [])

/-- Takes digits from the front, of which the first is no underscore. -/
def readDigits? (base : Nat) (s : List Char) : Option (List Char × List Char) :=
  match s with
  | c :: _ => if isDigitIn base c then some (takeDigits base s) else none
  | [] => none

/-- The number that digits spell. -/
def digitsNumber (base : Nat) (digits : List Char) : Nat :=
  Text.digitsValue base (digits.map fun c => (Text.digitValue? base c).getD 0)

/-- An integer, if it is a 64-bit word. -/
def wordOf? (n : Int) : Option Json := if isWord n then some (.int n) else none

/-- Takes an integer after its base mark from the front. -/
def readBased? (base : Nat) (s : List Char) : Option (Json × List Char) :=
  match readDigits? base s with
  | some (digits, rest) => (wordOf? (digitsNumber base digits)).map fun v => (v, rest)
  | none => none

/-- Takes the whole part of a decimal from the front: a zero alone or digits without a leading
zero. -/
def readWhole? (s : List Char) : Option (List Char × List Char) :=
  match s with
  | '0' :: rest => some (['0'], rest)
  | _ => readDigits? 10 s

/-- Takes an exponent from the front if its mark is there: the text and the value. -/
def readExponent? (s : List Char) : Option ((List Char × Int) × List Char) :=
  match s with
  | c :: rest =>
    if c = 'e' ∨ c = 'E' then
      let (sign, rest) := match rest with
        | '+' :: r => (['+'], r)
        | '-' :: r => (['-'], r)
        | r => ([], r)
      (readDigits? 10 rest).map fun (digits, rest) =>
        let n : Int := digitsNumber 10 digits
        (('e' :: sign ++ digits, if sign = ['-'] then -n else n), rest)
    else some (([], 0), s)
  | [] => some (([], 0), s)

/-- Takes a fraction from the front if its point is there. -/
def readFraction? (s : List Char) : Option (List Char × List Char) :=
  match s with
  | '.' :: rest => readDigits? 10 rest
  | _ => some ([], s)

/-- The least decimal magnitude at which double precision has nothing finite left: the middle
between the largest finite number and the next power of two. -/
def overflowBound : Nat := Nat.pow 2 1024 - Nat.pow 2 970

/-- Whether a decimal, digits times a power of ten, is too large for double precision. -/
def overflows (digits : List Char) (exponent : Int) : Bool :=
  let n := digitsNumber 10 digits
  let size : Int := (Nat.toDigits 10 n).length + exponent
  if n = 0 ∨ size < 300 then false
  else if 320 < size then true
  else if 0 ≤ exponent then overflowBound ≤ n * Nat.pow 10 exponent.toNat
  else overflowBound * Nat.pow 10 exponent.natAbs ≤ n

/-- Takes a decimal from the front: an integer, or a real number if a fraction or an exponent
follows. A real number above the range of double precision is refused; one below it is minus
infinity. -/
def readDecimal? (sign : List Char) (s : List Char) : Option (Json × List Char) := do
  let (whole, rest) ← readWhole? s
  let (fraction, rest₁) ← readFraction? rest
  let ((exponent, power), rest₂) ← readExponent? rest₁
  if fraction.isEmpty ∧ exponent.isEmpty then
    let n : Int := digitsNumber 10 whole
    let v ← wordOf? (if sign = ['-'] then -n else n)
    return (v, rest₂)
  else if sign ≠ ['-'] ∧ overflows (whole ++ fraction) (power - fraction.length) then none
  else
    let text := sign ++ whole ++ '.' :: fraction ++ exponent
    return (.real (String.ofList text), rest₂)

/-- Takes a fixed word from the front. -/
def readWord? (word : List Char) (v : Json) (s : List Char) : Option (Json × List Char) :=
  if s.take word.length = word then some (v, s.drop word.length) else none

/-- Takes one of the special real numbers from the front. -/
def readSpecial? (sign : List Char) (s : List Char) : Option (Json × List Char) :=
  (readWord? ['i', 'n', 'f'] (.real (String.ofList (sign ++ ['i', 'n', 'f']))) s).orElse fun _ =>
    readWord? ['n', 'a', 'n'] (.real (String.ofList (sign ++ ['n', 'a', 'n']))) s

/-- Takes a number from the front. -/
def readNumber? (s : List Char) : Option (Json × List Char) :=
  match s with
  | '0' :: 'x' :: rest => readBased? 16 rest
  | '0' :: 'o' :: rest => readBased? 8 rest
  | '0' :: 'b' :: rest => readBased? 2 rest
  | '+' :: rest => (readSpecial? ['+'] rest).orElse fun _ => readDecimal? ['+'] rest
  | '-' :: rest => (readSpecial? ['-'] rest).orElse fun _ => readDecimal? ['-'] rest
  | _ => readDecimal? [] s

/-! ### Dates and times -/

/-- Takes exactly `n` digits from the front. -/
def fixed? (n : Nat) (s : List Char) : Option (Nat × List Char) :=
  let digits := s.take n
  if digits.length = n ∧ digits.all Text.isDigit then
    some (Text.decimalValue digits, s.drop n)
  else none

/-- Takes exactly two digits of a number up to `max` from the front. -/
def field? (max : Nat) (s : List Char) : Option (Nat × List Char) :=
  (fixed? 2 s).filter fun (n, _) => n ≤ max

/-- Takes a character from the front. -/
def mark? (c : Char) : List Char → Option (List Char)
  | [] => none
  | d :: rest => if c = d then some rest else none

/-- The outcome of trying one form: the next form is tried only as long as this one has not shown
itself beyond doubt. -/
inductive Attempt (α : Type) where
  | read (value : α) (rest : List Char)
  | malformed
  | other

/-- Takes minute, second and fraction of a time from the front. -/
def readMinutes? (s : List Char) : Option (List Char) := do
  let (_, s) ← field? 59 s
  let s ← mark? ':' s
  let (_, s) ← field? 60 s
  match s with
  | '.' :: rest =>
    let digits := rest.takeWhile Text.isDigit
    return if digits.isEmpty then s else rest.drop digits.length
  | _ => return s

/-- Tries a time of day. An hour and a colon put it beyond doubt. -/
def attemptTime (s : List Char) : Attempt Unit :=
  match (field? 23 s).bind fun (_, rest) => mark? ':' rest with
  | none => .other
  | some rest =>
    match readMinutes? rest with
    | some rest => .read () rest
    | none => .malformed

/-- Takes an offset from the front if there is one. -/
def readOffset? (s : List Char) : Option (List Char) :=
  match s with
  | 'Z' :: rest | 'z' :: rest => some rest
  | c :: rest =>
    if c = '+' ∨ c = '-' then do
      let (_, rest) ← field? 23 rest
      let rest ← mark? ':' rest
      let (_, rest) ← field? 59 rest
      return rest
    else some s
  | [] => some []

/-- Tries a date, with a time and an offset if they follow. Four digits and a hyphen put it beyond
doubt. -/
def attemptDate (s : List Char) : Attempt Unit :=
  match (fixed? 4 s).bind fun (year, rest) => (mark? '-' rest).map (year, ·) with
  | none => .other
  | some (year, rest) =>
    let date : Option (List Char) := do
      let (month, rest) ← field? 12 rest
      let rest ← mark? '-' rest
      let (day, rest) ← field? 31 rest
      if 1 ≤ month ∧ 1 ≤ day ∧ day ≤ daysInMonth year month then return rest else none
    match date with
    | none => .malformed
    | some rest =>
      match rest with
      | c :: after =>
        if c = 'T' ∨ c = 't' ∨ c = ' ' then
          match attemptTime after with
          | .other => .read () rest
          | .malformed => .malformed
          | .read () after =>
            match readOffset? after with
            | some after => .read () after
            | none => .malformed
        else .read () rest
      | [] => .read () []

/-- The form of a date or time: an object whose one field no record has. -/
def momentJson (text : List Char) : Json := .obj [("moment", .str (String.ofList text))]

/-- Takes a date, a time or a number from the front. -/
def readMomentOrNumber? (s : List Char) : Option (Json × List Char) :=
  let moment := fun (rest : List Char) =>
    some (momentJson (s.take (s.length - rest.length)), rest)
  match attemptDate s with
  | .read () rest => moment rest
  | .malformed => none
  | .other =>
    match attemptTime s with
    | .read () rest => moment rest
    | .malformed => none
    | .other => readNumber? s

/-- Takes a scalar that is no string from the front. -/
def readScalar? (s : List Char) : Option (Json × List Char) :=
  match s with
  | 't' :: rest => readWord? ['r', 'u', 'e'] (.bool true) rest
  | 'f' :: rest => readWord? ['a', 'l', 's', 'e'] (.bool false) rest
  | 'i' :: _ | 'n' :: _ => readSpecial? [] s
  | _ => readMomentOrNumber? s

end Chancery.Toml
