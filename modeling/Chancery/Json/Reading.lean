import Chancery.Json

/-!
# Reading JSON

A reader takes a value from the front of a list of characters and hands back the rest. Strings are
read strictly: no control character stands in one unescaped, and the two halves of an escaped
surrogate pair come together. Blanks are allowed between tokens and nothing else is.

Values nest, and their readers call each other; a number that only shrinks bounds the calls. Each
call for a value or for the rest of a list reads at least one character or is followed by one that
does, so twice the length of the text is always enough.

## Main definitions

* `Json.parse?` — the value that a whole text spells
-/

namespace Chancery.Json

/-- The blanks between tokens. -/
def isGap (c : Char) : Bool := c = ' ' || c = '\n' || c = '\t' || c = '\r'

/-- Removes blanks from the front. -/
def skipGap (s : List Char) : List Char := s.dropWhile isGap

/-! ### Strings -/

/-- Takes the four hexadecimal digits of an escape from the front. -/
def readUnit? (s : List Char) : Option (Nat × List Char) :=
  if (s.take 4).length = 4 then
    ((s.take 4).mapM (Text.digitValue? 16)).map fun vs => (Text.digitsValue 16 vs, s.drop 4)
  else none

/-- Whether a 16-bit unit is the first half of a pair. -/
def isHighHalf (n : Nat) : Bool := 0xD800 ≤ n && n ≤ 0xDBFF

/-- Whether a 16-bit unit is the second half of a pair. -/
def isLowHalf (n : Nat) : Bool := 0xDC00 ≤ n && n ≤ 0xDFFF

/-- Takes the character of a numbered escape from the front, where the `u` has been taken. -/
def readNumbered? (s : List Char) : Option (Char × List Char) :=
  match readUnit? s with
  | none => none
  | some (n, rest) =>
    if isHighHalf n then
      match rest with
      | '\\' :: 'u' :: rest =>
        match readUnit? rest with
        | some (m, rest) =>
          if isLowHalf m then
            some (Char.ofNat (0x10000 + (n - 0xD800) * 0x400 + (m - 0xDC00)), rest)
          else none
        | none => none
      | _ => none
    else if isLowHalf n then none
    else some (Char.ofNat n, rest)

/-- Takes the character of an escape from the front, where the backslash has been taken. -/
def readEscape? : List Char → Option (Char × List Char)
  | '"' :: s => some ('"', s)
  | '\\' :: s => some ('\\', s)
  | '/' :: s => some ('/', s)
  | 'b' :: s => some ('\x08', s)
  | 'f' :: s => some ('\x0c', s)
  | 'n' :: s => some ('\n', s)
  | 'r' :: s => some ('\r', s)
  | 't' :: s => some ('\t', s)
  | 'u' :: s => readNumbered? s
  | _ => none

/-- Takes the rest of a string from the front, given the characters already read in reverse. -/
def readStringFrom? : Nat → List Char → List Char → Option (String × List Char)
  | 0, _, _ => none
  | fuel + 1, done, s =>
    match s with
    | [] => none
    | '"' :: rest => some (String.ofList done.reverse, rest)
    | '\\' :: rest =>
      match readEscape? rest with
      | some (c, rest) => readStringFrom? fuel (c :: done) rest
      | none => none
    | c :: rest => if c.toNat < 0x20 then none else readStringFrom? fuel (c :: done) rest

/-- Takes a string from the front, where the opening quote has been taken. -/
def readString? (s : List Char) : Option (String × List Char) :=
  readStringFrom? (s.length + 1) [] s

/-! ### Numbers -/

/-- Takes a mark and digits from the front, if the mark is there. -/
def readMarked? (isMark : Char → Bool) (signed : Bool) (s : List Char) :
    Option (List Char × List Char) :=
  match s with
  | [] => some ([], [])
  | c :: rest =>
    if isMark c then
      let sign := match rest with
        | '+' :: _ | '-' :: _ => if signed then rest.take 1 else []
        | _ => []
      let digits := (rest.drop sign.length).takeWhile Text.isDigit
      if digits.isEmpty then none
      else some (c :: sign ++ digits, rest.drop (sign.length + digits.length))
    else some ([], s)

/-- Takes a number from the front. A minus sign in front of a lone zero makes a real number, since
no integer is a negative zero. -/
def readNumber? (s : List Char) : Option (Json × List Char) := do
  let minus := s.head? = some '-'
  let body := if minus then s.drop 1 else s
  let digits := body.takeWhile Text.isDigit
  let rest := body.drop digits.length
  if digits.isEmpty || (digits.head? = some '0' && 1 < digits.length) then none
  else
    let (fraction, rest) ← readMarked? (· = '.') false rest
    let (exponent, rest) ← readMarked? (fun c => c = 'e' || c = 'E') true rest
    let n := Text.decimalValue digits
    if fraction.isEmpty && exponent.isEmpty && !(minus && n = 0) then
      return (.int (if minus then -(n : Int) else n), rest)
    else
      let text := (if minus then ['-'] else []) ++ digits ++ fraction ++ exponent
      return (.real (String.ofList text), rest)

/-! ### Values -/

/-- Takes a fixed word from the front. -/
def readWord? (word : List Char) (v : Json) (s : List Char) : Option (Json × List Char) :=
  if s.take word.length = word then some (v, s.drop word.length) else none

mutual

/-- Takes a value from the front. -/
def readValue? : Nat → List Char → Option (Json × List Char)
  | 0, _ => none
  | fuel + 1, s =>
    match skipGap s with
    | '"' :: rest => (readString? rest).map fun (text, rest) => (.str text, rest)
    | '[' :: rest =>
      match skipGap rest with
      | ']' :: rest => some (.arr [], rest)
      | rest => (readItems? fuel rest).map fun (items, rest) => (.arr items, rest)
    | '{' :: rest =>
      match skipGap rest with
      | '}' :: rest => some (.obj [], rest)
      | rest => (readFields? fuel rest).map fun (fields, rest) => (.obj fields, rest)
    | 'n' :: rest => readWord? ['u', 'l', 'l'] .null rest
    | 't' :: rest => readWord? ['r', 'u', 'e'] (.bool true) rest
    | 'f' :: rest => readWord? ['a', 'l', 's', 'e'] (.bool false) rest
    | rest => readNumber? rest

/-- Takes the remaining items of an array from the front, up to its bracket. -/
def readItems? : Nat → List Char → Option (List Json × List Char)
  | 0, _ => none
  | fuel + 1, s =>
    match readValue? fuel s with
    | none => none
    | some (v, rest) =>
      match skipGap rest with
      | ',' :: rest => (readItems? fuel rest).map fun (items, rest) => (v :: items, rest)
      | ']' :: rest => some ([v], rest)
      | _ => none

/-- Takes the remaining fields of an object from the front, up to its brace. -/
def readFields? : Nat → List Char → Option (List (String × Json) × List Char)
  | 0, _ => none
  | fuel + 1, s =>
    match skipGap s with
    | '"' :: rest =>
      match readString? rest with
      | none => none
      | some (name, rest) =>
        match skipGap rest with
        | ':' :: rest =>
          match readValue? fuel rest with
          | none => none
          | some (v, rest) =>
            match skipGap rest with
            | ',' :: rest =>
              (readFields? fuel rest).map fun (fields, rest) => ((name, v) :: fields, rest)
            | '}' :: rest => some ([(name, v)], rest)
            | _ => none
        | _ => none
    | _ => none

end

/-- The value that a text spells, with blanks around it. -/
def parse? (text : String) : Option Json :=
  let s := text.toList
  match readValue? (2 * s.length + 2) s with
  | some (v, rest) => if (skipGap rest).isEmpty then some v else none
  | none => none

end Chancery.Json
