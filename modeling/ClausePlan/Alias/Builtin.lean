import ClausePlan.Alias.Source
import ClausePlan.Settings
/-!
# The built-in alias sources

Aliases are told apart by a counter or by random digits, as the settings choose. With random digits an
alias is its seed, an underscore and the first digits of a random token. Such a source remembers what
it has given out; after a collision it draws again, a limited number of times.

## Main definitions

* `Token`: a random number of 128 bits, written in 32 hexadecimal digits.
* `Token.stream`: a reproducible stream of tokens.
* `RandomAliases`: the state of a random source, with the stream of tokens that it draws from.
* `BuiltinAliases`: a sequential or a random source.
* `BuiltinAliases.ofSettings`: the source of the strategy in some settings.
-/

namespace ClausePlan

/-! ### Tokens -/

/-- A random number of 128 bits. -/
abbrev Token := BitVec 128

namespace Token

/-- The hexadecimal digits of a token, thirty-two of them, in lower case. -/
def digits (token : Token) : List Char :=
  (List.range 32).map fun i => Nat.digitChar ((token.toNat >>> (4 * (31 - i))) % 16)

/-- The token with its version digit, the thirteenth, set to four and the two upper bits of its
seventeenth digit to `10`, as randomly made identifiers have them. -/
def versioned (token : Token) : Token :=
  let version : Token := 0xF <<< 76
  let variant : Token := 0x3 <<< 62
  (token &&& ~~~version &&& ~~~variant) ||| (0x4 <<< 76) ||| (0x2 <<< 62)

/-- Spreads a change of any bit of a word over all bits. -/
def scramble (word : UInt64) : UInt64 :=
  let word := (word ^^^ (word >>> 30)) * 0xBF58476D1CE4E5B9
  let word := (word ^^^ (word >>> 27)) * 0x94D049BB133111EB
  word ^^^ (word >>> 31)

/-- The token at an index of the stream with the given seed. Each half is a scrambled multiple of an
odd constant, so that no state has to be carried along. -/
def stream (seed : UInt64) (index : Nat) : Token :=
  let half (i : Nat) := scramble (seed + (.ofNat i + 1) * 0x9E3779B97F4A7C15)
  versioned (BitVec.ofNat 128 ((half (2 * index)).toNat <<< 64 + (half (2 * index + 1)).toNat))

end Token

/-! ### The source -/

/-- A source that tells aliases apart by random digits. -/
structure RandomAliases where
  /-- How many digits of a token are used, as far as there are so many. -/
  suffixLength : Nat
  /-- How many collisions are put up with for one alias. -/
  retryLimit : Nat
  /-- The tokens to draw. -/
  tokens : Nat → Token
  /-- How many tokens have been drawn. -/
  drawn : Nat := 0
  /-- The aliases given out so far, the last one first. -/
  issued : List String := []

namespace RandomAliases

/-- The alias with the given seed that a token yields. -/
def aliasOf (source : RandomAliases) (seed : String) (token : Token) : String :=
  seed ++ "_" ++ String.ofList (token.digits.take source.suffixLength)

/-- Draws at most `attempts` tokens and gives out the first alias among them that is new. -/
def search (seed : String) : (attempts : Nat) → RandomAliases → Option String × RandomAliases
  | 0, source => (none, source)
  | attempts + 1, source =>
    let name := source.aliasOf seed (source.tokens source.drawn)
    let source := { source with drawn := source.drawn + 1 }
    if name ∈ source.issued then search seed attempts source
    else (some name, { source with issued := name :: source.issued })

instance : AliasSource RandomAliases where
  draw seed source :=
    match search seed (source.retryLimit + 1) source with
    | (some name, source) => (.ok name, source)
    | (none, source) => (.error (.aliasesExhausted seed (source.retryLimit + 1)), source)

end RandomAliases

/-! ### The source that settings choose -/

/-- A sequential or a random source. -/
inductive BuiltinAliases where
  /-- Aliases with a counter. -/
  | sequential (source : SequentialAliases)
  /-- Aliases with random digits. -/
  | random (source : RandomAliases)

namespace BuiltinAliases

/-- A fresh source of the strategy in the settings, with the tokens that a random one draws. -/
def ofSettings (settings : Settings) (tokens : Nat → Token) : BuiltinAliases :=
  match settings.aliasStrategy with
  | .sequential => sequential {}
  | .random => random {
      suffixLength := settings.effectiveSuffixLength
      retryLimit := settings.aliasRetryLimit.toNat
      tokens }

instance : AliasSource BuiltinAliases where
  draw seed
    | sequential source =>
      let (outcome, source) := AliasSource.draw seed source
      (outcome, sequential source)
    | random source =>
      let (outcome, source) := AliasSource.draw seed source
      (outcome, random source)

end BuiltinAliases

end ClausePlan
