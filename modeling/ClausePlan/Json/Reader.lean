import ClausePlan.Json.Basic
/-!
# Reading JSON text

`Json.parse?` reads a whole text as one JSON value. It refuses what the grammar of JSON does not
allow, a number beyond the largest double, half of a surrogate pair, and lists and objects nested
deeper than a given bound.

## Main definitions

* `Json.Reader`: takes a value off the front of a text, or refuses.
* `Json.Reader.value`: reads a value with a bound on nesting.
* `Json.parse?`: reads a whole text.
-/

namespace ClausePlan.Json

/-- Takes a value off the front of a text and returns it with the rest, or refuses the text. -/
abbrev Reader (α : Type) := List Char → Option (α × List Char)

namespace Reader

/-! ### Blanks and lists -/

/-- Drops blanks: space, tab, line feed and carriage return. -/
def skipBlanks (text : List Char) : List Char :=
  text.dropWhile fun c => c == ' ' || c == '\t' || c == '\n' || c == '\r'

/-- Reads items up to the closing character, a comma between any two. There is at least one, and no
more than `fuel`. -/
def itemsUntil {α : Type} (close : Char) (item : Reader α) : Nat → Reader (List α)
  | 0, _ => none
  | fuel + 1, text => do
    let (a, rest) ← item text
    match skipBlanks rest with
    | c :: rest =>
      if c = ',' then
        let (as, rest) ← itemsUntil close item fuel rest
        return (a :: as, rest)
      else if c = close then return ([a], rest)
      else none
    | [] => none

/-- Reads the items of a list whose opening character has been taken. There are no more than `size`
of them. -/
def list {α : Type} (size : Nat) (close : Char) (item : Reader α) : Reader (List α) := fun text =>
  match skipBlanks text with
  | c :: rest => if c = close then some ([], rest) else itemsUntil close item size (c :: rest)
  | [] => none

/-! ### Texts -/

/-- The value of a hexadecimal digit of either case. -/
def hexValue? (c : Char) : Option Nat :=
  if '0' ≤ c ∧ c ≤ '9' then some (c.toNat - '0'.toNat)
  else if 'a' ≤ c ∧ c ≤ 'f' then some (c.toNat - 'a'.toNat + 10)
  else if 'A' ≤ c ∧ c ≤ 'F' then some (c.toNat - 'A'.toNat + 10)
  else none

/-- The value of four hexadecimal digits. -/
def hexUnit? (a b c d : Char) : Option Nat := do
  return ((← hexValue? a) * 16 + (← hexValue? b)) * 256 + (← hexValue? c) * 16 + (← hexValue? d)

/-- The character that a backslash and `c` stand for. -/
def unescape? (c : Char) : Option Char :=
  match c with
  | '"' => some '"'
  | '\\' => some '\\'
  | '/' => some '/'
  | 'b' => some '\x08'
  | 'f' => some '\x0c'
  | 'n' => some '\n'
  | 'r' => some '\r'
  | 't' => some '\t'
  | _ => none

/-- Whether a 16-bit unit is the first of a surrogate pair. -/
def isHighSurrogate (unit : Nat) : Bool :=
  0xD800 ≤ unit && unit < 0xDC00

/-- Whether a 16-bit unit is the second of a surrogate pair. -/
def isLowSurrogate (unit : Nat) : Bool :=
  0xDC00 ≤ unit && unit < 0xE000

/-- Reads the characters of a text up to its closing quote; the opening one has been taken. -/
def characters : Reader (List Char)
  | [] => none
  | '"' :: rest => some ([], rest)
  | '\\' :: 'u' :: a :: b :: c :: d :: rest =>
    match hexUnit? a b c d with
    | none => none
    | some unit =>
      if isLowSurrogate unit then none
      else if isHighSurrogate unit then
        -- the second half of the pair has to follow at once
        match rest with
        | '\\' :: 'u' :: a :: b :: c :: d :: rest =>
          match hexUnit? a b c d with
          | none => none
          | some low =>
            if isLowSurrogate low then
              (characters rest).map fun (cs, rest) =>
                (Char.ofNat (0x10000 + (unit - 0xD800) * 0x400 + (low - 0xDC00)) :: cs, rest)
            else none
        | _ => none
      else (characters rest).map fun (cs, rest) => (Char.ofNat unit :: cs, rest)
  | '\\' :: c :: rest =>
    match unescape? c with
    | none => none
    | some c => (characters rest).map fun (cs, rest) => (c :: cs, rest)
  | c :: rest =>
    -- a backslash at the very end reaches this place, and no closing quote follows it
    if c.toNat < 32 then none
    else (characters rest).map fun (cs, rest) => (c :: cs, rest)

/-- Reads a text in quotes. -/
def quoted : Reader String := fun text =>
  match skipBlanks text with
  | '"' :: rest => (characters rest).map fun (cs, rest) => (String.ofList cs, rest)
  | _ => none

/-! ### Numbers -/

/-- The value of a list of decimal digits. -/
def decimalValue (digits : List Char) : Nat :=
  digits.foldl (fun n c => 10 * n + (c.toNat - '0'.toNat)) 0

/-- Reads one decimal digit at least. -/
def digits : Reader (List Char) := fun text =>
  match text.takeWhile Char.isDigit with
  | [] => none
  | ds => some (ds, text.dropWhile Char.isDigit)

/-- Reads the integer part of a number: a lone zero, or digits that start with no zero. -/
def integerPart : Reader (List Char)
  | '0' :: c :: rest => if c.isDigit then none else some (['0'], c :: rest)
  | text => digits text

/-- Reads a point and the digits behind it, if there is a point. -/
def fraction : Reader (Option (List Char))
  | '.' :: rest => (digits rest).map fun (ds, rest) => (some ds, rest)
  | text => some (none, text)

/-- Reads an exponent, if there is one. -/
def exponent : Reader (Option Int) := fun text =>
  match text with
  | c :: rest =>
    if c = 'e' ∨ c = 'E' then
      match rest with
      | '-' :: rest => (digits rest).map fun (ds, rest) => (some (-(decimalValue ds : Int)), rest)
      | '+' :: rest => (digits rest).map fun (ds, rest) => (some (decimalValue ds : Int), rest)
      | rest => (digits rest).map fun (ds, rest) => (some (decimalValue ds : Int), rest)
    else some (none, text)
  | [] => some (none, text)

/-- The integer written by these digits, if it lies between `-2 ^ 63` and `2 ^ 64 - 1` and is not
the negative zero. -/
def integerOf? (negative : Bool) (whole : List Char) : Option Int :=
  let n := decimalValue whole
  if negative then if 0 < n ∧ n ≤ UInt64.size / 2 then some (-n) else none
  else if n < UInt64.size then some n
  else none

/-- Appends digits to a significand up to the first one with which it would no longer be below
`2 ^ 64`. Returns the significand and the digits that are left. -/
def extend (significand : Nat) : List Char → Nat × List Char
  | [] => (significand, [])
  | c :: cs =>
    let longer := 10 * significand + (c.toNat - '0'.toNat)
    if longer < UInt64.size then extend longer cs else (significand, c :: cs)

/-- The double written by these parts. Only as many digits count as a significand of 64 bits can
hold. Those of the integer part that are left over raise the power of ten, and those behind the
point are dropped. -/
def doubleOf? (negative : Bool) (whole behind : List Char) (exponent : Int) : Option Double :=
  let (significand, left) := extend 0 whole
  let (significand, dropped) := extend significand behind
  let power := exponent + left.length - (behind.length - dropped.length : Nat)
  Double.ofDecimal? negative (.ofNat significand) power

/-- The number written by these parts: an integer if it is written as one and is not too large for
that, and a double otherwise. -/
def numberOf? (negative : Bool) (whole : List Char) (fraction : Option (List Char))
    (exponent : Option Int) : Option Number :=
  let double? := doubleOf? negative whole (fraction.getD []) (exponent.getD 0)
  match fraction, exponent, integerOf? negative whole with
  | none, none, some n => some (.integer n)
  | _, _, _ => double?.map .double

/-- Reads a number. -/
def number : Reader Number := fun text => do
  let (negative, text) := match text with
    | '-' :: rest => (true, rest)
    | text => (false, text)
  let (whole, rest) ← integerPart text
  let (behind, rest) ← fraction rest
  let (power, rest) ← exponent rest
  return (← numberOf? negative whole behind power, rest)

/-! ### Values -/

/-- Reads a member of an object, given how its value is read. -/
def member (nested : Reader Json) : Reader (String × Json) := fun text => do
  let (key, rest) ← quoted text
  match skipBlanks rest with
  | ':' :: rest =>
    let (value, rest) ← nested rest
    return ((key, value), rest)
  | _ => none

/-- Reads a value, given how values inside lists and objects are read; `none` where no list and no
object may stand. No list or object has more than `size` parts. -/
def valueWith (size : Nat) (nested : Option (Reader Json)) : Reader Json := fun text =>
  match skipBlanks text with
  | 'n' :: 'u' :: 'l' :: 'l' :: rest => some (.null, rest)
  | 't' :: 'r' :: 'u' :: 'e' :: rest => some (.bool true, rest)
  | 'f' :: 'a' :: 'l' :: 's' :: 'e' :: rest => some (.bool false, rest)
  | '"' :: rest => (characters rest).map fun (cs, rest) => (.string (String.ofList cs), rest)
  | '[' :: rest => do
    let (items, rest) ← list size ']' (← nested) rest
    return (.array items, rest)
  | '\x7b' :: rest => do
    let (members, rest) ← list size '\x7d' (member (← nested)) rest
    return (.ofMembers members, rest)
  | text => (number text).map fun (n, rest) => (.number n, rest)

/-- Reads a value in which lists and objects are nested at most `depth` deep and have no more than
`size` parts each. -/
def value (size : Nat) : (depth : Nat) → Reader Json
  | 0 => valueWith size none
  | depth + 1 => valueWith size (some (value size depth))

end Reader

/-- The value that a text holds, if it holds exactly one JSON value, with lists and objects nested at
most `depth` deep, and nothing but blanks around it. -/
def parse? (depth : Nat) (text : String) : Option Json :=
  let chars := text.toList
  -- a part takes a character at least, so the length of the text bounds their number
  match Reader.value chars.length depth chars with
  | some (value, rest) => if (Reader.skipBlanks rest).isEmpty then some value else none
  | none => none

end ClausePlan.Json
