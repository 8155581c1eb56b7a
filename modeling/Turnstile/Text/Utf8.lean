/-!
# UTF-8 in both directions

* `encode` writes text as octets.
* `Decoder` reads octets one at a time. It knows how many continuation octets the character under
  way still owes and which range the next one must lie in, so it refuses at the first octet that
  rules the character out.
* `decodeLossy` puts one replacement character for each maximal part that is no character;
  `decode?` refuses such input altogether.

The decoder's state is explicit so that reading a stream in chunks (`Decoder.feed`) can be compared
with reading it at once.
-/

namespace Turnstile

/-- A sequence of octets: what files hold and what processes write. -/
abbrev Bytes := List UInt8

namespace Utf8

/-- The UTF-8 form of a text. -/
def encode (s : String) : Bytes :=
  s.toList.flatMap String.utf8EncodeChar

/-- The number of octets of a character in UTF-8. -/
def width (c : Char) : Nat :=
  c.utf8Size

/-- What stands for octets that are no character. -/
def replacement : Char := '\uFFFD'

/-- Where a decoder stands between two octets. -/
inductive Decoder where
  /-- Between characters. -/
  | ready
  /-- Inside a character: the bits read so far, the number of octets owed, and the least and the
  greatest value of the next one. -/
  | inside (bits owed low high : Nat)
  deriving DecidableEq, Repr

namespace Decoder

/-- The state after the first octet of a character; `none` if no character starts with it. -/
def start (b : Nat) : Option Decoder :=
  if 0xC2 ≤ b ∧ b ≤ 0xDF then some (.inside (b - 0xC0) 1 0x80 0xBF)
  else if b = 0xE0 then some (.inside 0 2 0xA0 0xBF)
  else if b = 0xED then some (.inside 0xD 2 0x80 0x9F)
  else if 0xE1 ≤ b ∧ b ≤ 0xEF then some (.inside (b - 0xE0) 2 0x80 0xBF)
  else if b = 0xF0 then some (.inside 0 3 0x90 0xBF)
  else if b = 0xF4 then some (.inside 4 3 0x80 0x8F)
  else if 0xF1 ≤ b ∧ b ≤ 0xF3 then some (.inside (b - 0xF0) 3 0x80 0xBF)
  else none

/-- What one octet completes: a character, or the end of a part that is none. -/
inductive Piece where
  | char (c : Char)
  | invalid
  deriving DecidableEq, Repr

/-- One octet read between characters. -/
def stepReady (b : Nat) : List Piece × Decoder :=
  if b < 0x80 then ([.char (Char.ofNat b)], .ready)
  else match start b with
    | some d => ([], d)
    | none => ([.invalid], .ready)

/-- One octet: the pieces it completes and the state after it. An octet that cannot continue the
character under way ends it as invalid and is then read as a first octet. -/
def step : Decoder → Nat → List Piece × Decoder
  | .ready, b => stepReady b
  | .inside bits owed low high, b =>
    if low ≤ b ∧ b ≤ high then
      let bits := bits * 64 + (b - 0x80)
      if owed ≤ 1 then ([.char (Char.ofNat bits)], .ready)
      else ([], .inside bits (owed - 1) 0x80 0xBF)
    else
      let (pieces, d) := stepReady b
      (.invalid :: pieces, d)

/-- The piece that the end of input completes: an unfinished character is invalid. -/
def finish : Decoder → List Piece
  | .ready => []
  | .inside .. => [.invalid]

/-- The pieces of a chunk and the state after it. -/
def feed (d : Decoder) : Bytes → List Piece × Decoder
  | [] => ([], d)
  | b :: rest =>
    let (now, d) := d.step b.toNat
    let (later, d) := d.feed rest
    (now ++ later, d)

end Decoder

open Decoder

/-- The pieces of a whole sequence, read with an accumulator so that long input needs no stack. -/
def piecesLoop (d : Decoder) (acc : List Piece) : Bytes → List Piece
  | [] => (d.finish.reverse ++ acc).reverse
  | b :: rest =>
    let (now, d) := d.step b.toNat
    piecesLoop d (now.reverse ++ acc) rest

/-- The pieces of a whole sequence. -/
def pieces (bs : Bytes) : List Piece := piecesLoop .ready [] bs

/-- `pieces` is `feed` from the start, followed by the end of input. -/
theorem pieces_eq_feed (bs : Bytes) :
    pieces bs = (Decoder.ready.feed bs).1 ++ (Decoder.ready.feed bs).2.finish := by
  suffices h : ∀ d acc, piecesLoop d acc bs = acc.reverse ++ (d.feed bs).1 ++ (d.feed bs).2.finish by
    simpa [pieces] using h .ready []
  induction bs with
  | nil => intro d acc; simp [piecesLoop, Decoder.feed]
  | cons b rest ih => intro d acc; simp [piecesLoop, Decoder.feed, ih]

/-- The character shown for a piece. -/
def Decoder.Piece.shown : Piece → Char
  | .char c => c
  | .invalid => replacement

/-- The characters of a sequence, with one replacement character for each maximal part that is no
character. -/
def decodeLossyChars (bs : Bytes) : List Char := (pieces bs).map Piece.shown

/-- `decodeLossyChars` as a text. -/
def decodeLossy (bs : Bytes) : String := String.ofList (decodeLossyChars bs)

/-- The text of a sequence that is UTF-8 throughout. -/
def decode? (bs : Bytes) : Option String :=
  let ps := pieces bs
  if ps.all (· ≠ .invalid) then some (String.ofList (ps.map Piece.shown)) else none

end Utf8

end Turnstile
