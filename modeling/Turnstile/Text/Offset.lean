import Turnstile.Text.Utf8

/-!
# Offsets in a text

An offset in a text is the number of octets of its UTF-8 form that stand before it. `charOffset`
counts characters and gives an offset. `isBoundary` looks at octets alone: it is true of their two
ends, and of every other offset unless the octet there goes on with a character.
-/

namespace Turnstile.Utf8

/-- The UTF-8 form of characters. -/
def octets (cs : List Char) : Bytes := cs.flatMap String.utf8EncodeChar

/-- The number of octets of characters. -/
def size (cs : List Char) : Nat := (octets cs).length

/-- The number of octets of several texts. -/
def totalSize : List (List Char) → Nat
  | [] => 0
  | cs :: css => size cs + totalSize css

/-- The offsets at which characters start, of which the first starts at a given one. -/
def charOffsets (start : Nat) : List Char → List Nat
  | [] => []
  | c :: cs => start :: charOffsets (start + width c) cs

/-- The offset at which the character with a given number starts; the end of the text, if it has no
more characters than that. -/
def charOffset (cs : List Char) (k : Nat) : Nat := (charOffsets 0 cs)[k]?.getD (size cs)

/-- True of octets that go on with a character. -/
def isContinuation (b : UInt8) : Bool := 0x80 ≤ b.toNat && b.toNat ≤ 0xBF

/-- True of offsets that no character stands across. -/
def isBoundary (bs : Bytes) (offset : Nat) : Bool :=
  offset = 0 || match bs[offset]? with
    | some b => !isContinuation b
    | none => offset = bs.length

end Turnstile.Utf8
