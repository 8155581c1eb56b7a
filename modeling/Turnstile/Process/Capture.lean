import Turnstile.Text.Utf8

/-!
# Captured output

A `Capture` holds what a process wrote to its two streams, in the order of arrival. Once it is
closed it takes nothing more, so a process that was cut off reports only what it wrote before.

`find` searches from an offset. A search that fails names the offset from which a later one, over
grown output, can go on.
-/

namespace Turnstile

/-- The output of a process so far. -/
structure Capture where
  /-- The chunks that arrived, the latest first. -/
  chunks : List Bytes := []
  isClosed : Bool := false
  deriving DecidableEq, Repr, Inhabited

/-- The outcome of a search. -/
inductive Found where
  /-- The offset of the first occurrence. -/
  | at (offset : Nat)
  /-- No occurrence; the offset from which a later search can go on. -/
  | resume (offset : Nat)
  deriving DecidableEq, Repr

/-- The offset of the first occurrence of a sequence in octets that start at a given offset. -/
def Bytes.indexFrom? (needle : Bytes) (offset : Nat) : Bytes → Option Nat
  | [] => if needle.isEmpty then some offset else none
  | b :: rest =>
    if needle.isPrefixOf (b :: rest) then some offset else indexFrom? needle (offset + 1) rest

namespace Capture

/-- All that was captured. -/
def bytes (c : Capture) : Bytes := c.chunks.reverse.flatten

/-- Adds a chunk, unless the capture is closed. -/
def append (c : Capture) (chunk : Bytes) : Capture :=
  if c.isClosed then c else { c with chunks := chunk :: c.chunks }

/-- Takes nothing more from now on. -/
def close (c : Capture) : Capture := { c with isClosed := true }

/-- The captured octets as a text. -/
def text (c : Capture) : String := Utf8.decodeLossy c.bytes

/-- The number of captured octets. -/
def size (c : Capture) : Nat := c.bytes.length

/-- Searches for a sequence at or after an offset. The empty sequence is found at once. -/
def find (c : Capture) (needle : Bytes) (start : Nat) : Found :=
  let bytes := c.bytes
  let start := min start bytes.length
  match Bytes.indexFrom? needle start (bytes.drop start) with
  | some offset => .at offset
  | none => .resume (max (bytes.length - (needle.length - 1)) start)

/-- True if a sequence occurs. -/
def contains (c : Capture) (needle : Bytes) : Bool :=
  match c.find needle 0 with
  | .at _ => true
  | .resume _ => false

/-- An open capture grows by exactly the chunk. -/
theorem bytes_append {c : Capture} (h : c.isClosed = false) (chunk : Bytes) :
    (c.append chunk).bytes = c.bytes ++ chunk := by
  simp [append, bytes, h]

/-- A closed capture does not change. -/
theorem append_of_isClosed {c : Capture} (h : c.isClosed = true) (chunk : Bytes) :
    c.append chunk = c := by
  simp [append, h]

/-- Closing keeps what was captured. -/
@[simp] theorem bytes_close (c : Capture) : c.close.bytes = c.bytes := rfl

end Capture

end Turnstile
