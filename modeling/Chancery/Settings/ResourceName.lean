import Chancery.Text.Digits

/-!
# Resource names

The name of a file can be written as a resource name: after its scheme an authority, which has to
be this computer, then a path and, behind a question mark, parameters. What follows the first `#`
after the authority is not part of the name.

In each part `%` and two hexadecimal digits stand for a byte, and a byte of zero cuts off what
follows in the same part.

## Main definitions

* `ResourceName` and `ResourceName.ofChars?`
* `ResourceName.values`, `ResourceName.isSet` — what the parameters say
-/

namespace Chancery

/-- A parameter of a resource name: what stands before and after the equals sign. -/
structure ResourceParameter where
  name : List UInt8
  value : List UInt8

/-- A resource name, without its scheme and its authority. -/
structure ResourceName where
  path : List UInt8
  parameters : List ResourceParameter

namespace ResourceName

/-! ### Reading -/

/-- The bytes that characters stand for. -/
def decode : List Char → List UInt8
  | '%' :: a :: b :: rest =>
    match Text.digitValue? 16 a, Text.digitValue? 16 b with
    | some x, some y => (x * 16 + y).toUInt8 :: decode rest
    | _, _ => 0x25 :: decode (a :: b :: rest)
  | c :: rest => String.utf8EncodeChar c ++ decode rest
  | [] => []

/-- The bytes of a part of a name. -/
def part (s : List Char) : List UInt8 := (decode s).takeWhile (· ≠ 0)

/-- Reads a parameter. Without an equals sign its value is empty. -/
def parameter (s : List Char) : ResourceParameter :=
  { name := part (s.takeWhile (· ≠ '=')), value := part ((s.dropWhile (· ≠ '=')).drop 1) }

/-- Takes off the authority, which is empty or the local host. -/
def withoutAuthority? : List Char → Option (List Char)
  | '/' :: '/' :: rest =>
    let host := String.ofList (rest.takeWhile (· ≠ '/'))
    if host = "" ∨ host = "localhost" then some (rest.dropWhile (· ≠ '/')) else none
  | s => some s

/-- Reads what follows the scheme. -/
def ofChars? (s : List Char) : Option ResourceName :=
  (withoutAuthority? s).map fun s =>
    let s := s.takeWhile (· ≠ '#')
    { path := part (s.takeWhile (· ≠ '?'))
      parameters := (((s.dropWhile (· ≠ '?')).drop 1).splitOn '&').map parameter }

/-! ### Parameters -/

/-- The values of the parameters of one name, in their order. -/
def values (r : ResourceName) (name : String) : List (List UInt8) :=
  (r.parameters.filter fun p => p.name = name.toUTF8.toList).map (·.value)

/-- The values of the parameters of one name, where they are text. -/
def texts (r : ResourceName) (name : String) : List (Option String) :=
  (r.values name).map fun value => String.fromUTF8? ⟨value.toArray⟩

/-- The number that a text begins with, which is decimal, or hexadecimal after `0x`. It counts as
zero if it does not fit a signed 32-bit word. -/
def leadingNumber (s : List Char) : Nat :=
  let digits := fun base (s : List Char) =>
    let values := s.map (Text.digitValue? base)
    Text.digitsValue base ((values.takeWhile (·.isSome)).filterMap id)
  let n := match s with
    | '0' :: 'x' :: s | '0' :: 'X' :: s => digits 16 s
    | s => digits 10 s
  if n ≤ 2147483647 then n else 0

/-- Whether a value says yes: by a number, of which the lowest eight bits count, or by a word. -/
def isYes (value : List UInt8) : Bool :=
  let s := value.map fun b => Char.ofNat b.toNat
  if s.head?.any Text.isDigit then leadingNumber s % 256 ≠ 0
  else ["on", "yes", "true"].contains (String.ofList s).toLower

/-- Whether a property is set. Only the first parameter of its name counts. -/
def isSet (r : ResourceName) (name : String) : Bool := (r.values name).head?.any isYes

end ResourceName

end Chancery
