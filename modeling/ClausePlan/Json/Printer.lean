import ClausePlan.Double.Shortest
import ClausePlan.Json.Basic
/-!
# JSON text

The compact text of a JSON value: no spaces, members in the order of the object, and only those
characters escaped that JSON does not allow in a text.

## Main definitions

* `Double.text`: the text of a double.
* `Json.compact`: the text of a value.
-/

namespace ClausePlan

/-- Doubles are written with the fewest digits that identify them: positionally from `0.00001` up
to, but not including, `10 ^ 16`, and always with a point; otherwise with an exponent that bears its
sign, as in `1e-7` and `1.5e+21`. -/
def Double.text (x : Double) : String :=
  let sign := if x.isNegative then "-" else ""
  let d := x.shortest
  let digits := Nat.toDigits 10 d.digits
  let count := digits.length
  -- how many digits stand before the point
  let point : Int := count + d.exponent
  let zeros (n : Int) : List Char := List.replicate n.toNat '0'
  let body : List Char :=
    if d.digits = 0 then ['0', '.', '0']
    else if 0 < point ∧ point ≤ 16 then
      if 0 ≤ d.exponent then digits ++ zeros d.exponent ++ ['.', '0']
      else digits.take point.toNat ++ '.' :: digits.drop point.toNat
    else if -5 < point ∧ point ≤ 0 then '0' :: '.' :: zeros (-point) ++ digits
    else
      let leading := digits.take 1 ++ (if 1 < count then '.' :: digits.drop 1 else [])
      let power := point - 1
      leading ++ 'e' :: (if power < 0 then '-' else '+') :: (toString power.natAbs).toList
  sign ++ String.ofList body

/-- The text of a number. -/
def Number.text : Number → String
  | .integer value => toString value
  | .double value => value.text

namespace Json

/-- A hexadecimal digit in lower case. -/
def hexDigit (n : Nat) : Char :=
  Nat.digitChar n

/-- The characters that stand for `c` in a JSON text. -/
def escapeChar (c : Char) : List Char :=
  match c with
  | '"' => ['\\', '"']
  | '\\' => ['\\', '\\']
  | '\n' => ['\\', 'n']
  | '\r' => ['\\', 'r']
  | '\t' => ['\\', 't']
  | c =>
    if c.toNat = 8 then ['\\', 'b']
    else if c.toNat = 12 then ['\\', 'f']
    else if c.toNat < 32 then
      ['\\', 'u', '0', '0', hexDigit (c.toNat / 16), hexDigit (c.toNat % 16)]
    else [c]

/-- A text in quotes, as JSON writes it. -/
def quote (text : String) : String :=
  String.ofList ('"' :: text.toList.flatMap escapeChar ++ ['"'])

mutual

/-- The text of a value. -/
def compact : Json → String
  | .null => "null"
  | .bool true => "true"
  | .bool false => "false"
  | .number value => value.text
  | .string value => quote value
  | .array items => "[" ++ ",".intercalate (compactItems items) ++ "]"
  | .object members => "\x7b" ++ ",".intercalate (compactMembers members) ++ "\x7d"

/-- The texts of the items of a list. -/
def compactItems : List Json → List String
  | [] => []
  | item :: items => compact item :: compactItems items

/-- The texts of the members of an object. -/
def compactMembers : List (String × Json) → List String
  | [] => []
  | (key, value) :: members => (quote key ++ ":" ++ compact value) :: compactMembers members

end

end Json

end ClausePlan
