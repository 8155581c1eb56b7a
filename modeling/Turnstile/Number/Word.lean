/-!
# Words of 64 bits

How many words there are, and which integers have one, read without sign (`isUnsigned`) or with a
sign (`isSigned`). `wrap` takes an integer to the word with sign that has the same lowest 64 bits.
-/

namespace Turnstile.Word

/-- The number of words. -/
def count : Nat := 18446744073709551616

/-- Half the number of words: `-half` is the least word with sign. -/
def half : Nat := 9223372036854775808

/-- True of integers that are a word without sign. -/
def isUnsigned (n : Int) : Bool := 0 ≤ n && n < count

/-- True of integers that are a word with sign. -/
def isSigned (n : Int) : Bool := -half ≤ n && n < half

/-- The word with sign that has the lowest bits of an integer. -/
def wrap (n : Int) : Int := n.bmod count

/-- The word without sign that has the lowest bits of an integer. -/
def bits (n : Int) : Nat := (n % count).toNat

end Turnstile.Word
