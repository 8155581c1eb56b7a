import Turnstile.Regex.Program
import Turnstile.Regex.Reader

/-!
# Searching

A search moves through the text with a list of threads, the preferred one first. Each thread waits
at a `read` and remembers where it started. `advance` takes one character; `settle` follows the
instructions that take none. The first thread to reach `accept` settles the match for the threads
behind it, so the answer is the leftmost match, and among those that start there the preferred one.

* `isMatch` says whether an expression matches anywhere in a text.
* `deleteMatches` removes every match from a text.
-/

namespace Turnstile

/-- The characters on both sides of a position. -/
structure Around where
  before : Option Char
  after : Option Char

/-- True if a word character stands on a side. -/
def isWordSide (unicode : Bool) : Option Char → Bool
  | none => false
  | some c => (if unicode then CharSet.words else CharSet.asciiWords).contains c.toNat

/-- True if a condition holds at a position. -/
def Assertion.holds (p : Around) : Assertion → Bool
  | .textStart => p.before.isNone
  | .textEnd => p.after.isNone
  | .lineStart false => p.before.isNone || p.before == some '\n'
  | .lineStart true =>
    p.before.isNone || p.before == some '\n' || (p.before == some '\r' && p.after != some '\n')
  | .lineEnd false => p.after.isNone || p.after == some '\n'
  | .lineEnd true =>
    p.after.isNone || p.after == some '\r' || (p.after == some '\n' && p.before != some '\r')
  | .wordBoundary u => isWordSide u p.before != isWordSide u p.after
  | .notWordBoundary u => isWordSide u p.before == isWordSide u p.after
  | .wordStart u => !isWordSide u p.before && isWordSide u p.after
  | .wordEnd u => isWordSide u p.before && !isWordSide u p.after
  | .wordStartHalf u => !isWordSide u p.before
  | .wordEndHalf u => !isWordSide u p.after

namespace Regex

/-- A thread: the address it waits at, and the position at which it started. -/
structure Thread where
  address : Nat
  start : Nat
  deriving Inhabited

/-- Threads being settled at one position: those that wait, the last one first; the addresses seen,
each with the number of the position at which it was seen; and the start of the match, once a
thread has accepted. -/
structure Settling where
  waiting : List Thread := []
  seen : Array Nat
  accepted : Option Nat := none

/-- Follows a thread to the reads and the accept that it reaches without a character. Threads after
an accepting one are dropped. The fuel bounds the depth, which is at most the number of
instructions, because an address is entered once. -/
def settle (code : Code) (p : Around) (stamp : Nat) : Nat → Thread → Settling → Settling
  | 0, _, st => st
  | fuel + 1, t, st =>
    if st.accepted.isSome || st.seen[t.address]? == some stamp then st
    else
      let st := { st with seen := st.seen.set! t.address stamp }
      match (code[t.address]? : Option Instruction) with
      | none => st
      | some (.read _ _) => { st with waiting := t :: st.waiting }
      | some (.look a next) =>
        if a.holds p then settle code p stamp fuel { t with address := next } st else st
      | some (.fork first second) =>
        settle code p stamp fuel { t with address := second }
          (settle code p stamp fuel { t with address := first } st)
      | some .accept => { st with accepted := some t.start }

/-- The threads, in order, that take a character. -/
def advance (code : Code) (c : Char) (waiting : List Thread) : List Thread :=
  waiting.filterMap fun t =>
    match (code[t.address]? : Option Instruction) with
    | some (.read s next) => if s.contains c.toNat then some { t with address := next } else none
    | _ => none

/-- A match: the positions where it starts and ends. -/
structure Span where
  start : Nat
  stop : Nat
  deriving DecidableEq, Repr

/-- Searches from a position on. `threads` are those that have taken the last character, `found` is
the best match so far. A new thread starts at each position until there is a match. With `anyMatch`
the search ends at the first match of all. -/
def searchFrom (prog : Program) (anyMatch : Bool) :
    List Char → Option Char → Nat → List Thread → Option Span → Array Nat → Option Span
  | rest, before, pos, threads, found, seen =>
    let around : Around := ⟨before, rest.head?⟩
    let fuel := prog.code.size + 1
    let threads := if found.isNone then threads ++ [⟨prog.start, pos⟩] else threads
    let st := threads.foldl (fun st t => settle prog.code around (pos + 1) fuel t st)
      { seen : Settling }
    let found := match st.accepted with
      | some start => some ⟨start, pos⟩
      | none => found
    match rest with
    | [] => found
    | c :: rest =>
      let waiting := st.waiting.reverse
      if found.isSome && (anyMatch || waiting.isEmpty) then found
      else searchFrom prog anyMatch rest (some c) (pos + 1) (advance prog.code c waiting) found
        st.seen

/-- The first match in the rest of a text, relative to that rest, given the character before it. -/
def find? (prog : Program) (before : Option Char) (rest : List Char) : Option Span :=
  searchFrom prog false rest before 0 [] none (Array.replicate prog.code.size 0)

/-- True if a program matches anywhere in a text. -/
def Program.isMatch (prog : Program) (text : List Char) : Bool :=
  (searchFrom prog true text none 0 [] none (Array.replicate prog.code.size 0)).isSome

/-- Removes every match from the rest of a text. `kept` holds, in reverse, the characters before
that rest which are not removed. An empty match removes nothing, and the search goes on after the
next character. -/
def Program.deleteFrom (prog : Program) : Nat → Option Char → List Char → List Char → List Char
  | 0, _, rest, kept => kept.reverse ++ rest
  | fuel + 1, before, rest, kept =>
    match find? prog before rest with
    | none => kept.reverse ++ rest
    | some span =>
      let kept := (rest.take span.start).reverse ++ kept
      if span.start < span.stop then
        let last := (rest.take span.stop).getLast?
        prog.deleteFrom fuel (last <|> before) (rest.drop span.stop) kept
      else
        match rest.drop span.start with
        | [] => kept.reverse
        | c :: cut => prog.deleteFrom fuel (some c) cut (c :: kept)

/-- Removes every match from a text. -/
def Program.deleteMatches (prog : Program) (text : List Char) : List Char :=
  prog.deleteFrom (text.length + 1) none text []

end Regex

end Turnstile
