import Turnstile.Regex.Named
import Turnstile.Regex.Syntax

/-!
# Programs of instructions

An expression is compiled to a list of instructions, each naming the ones that may follow. Where two
may follow, the first is preferred. `Instruction.look` and `Instruction.fork` take no character, so
the places that a program can wait at are its `Instruction.read`s.
-/

namespace Turnstile.Regex

/-- An instruction of a program. -/
inductive Instruction where
  /-- Takes a character of the set. -/
  | read (s : CharSet) (next : Nat)
  /-- Goes on if the condition holds. -/
  | look (a : Assertion) (next : Nat)
  /-- Goes on in two ways, of which the first is preferred. -/
  | fork (first second : Nat)
  /-- The text read so far matches. -/
  | accept
  deriving Inhabited

/-- Instructions under construction; an instruction's address is its index. -/
abbrev Code := Array Instruction

/-- Adds an instruction and answers with its address. -/
def emit (code : Code) (i : Instruction) : Nat × Code := (code.size, code.push i)

/-- A fork that prefers its first way if greedy, else its second. -/
def preferring (greedy : Bool) (more stop : Nat) : Instruction :=
  if greedy then .fork more stop else .fork stop more

/-- Puts mandatory copies of a piece of code in front of an address. -/
def copies (put : Nat → Code → Nat × Code) : Nat → Nat × Code → Nat × Code
  | 0, place => place
  | n + 1, (next, code) => copies put n (put next code)

/-- Puts optional copies of a piece of code in front of an address; each may leave for `stop`. -/
def optionalCopies (put : Nat → Code → Nat × Code) (greedy : Bool) (stop : Nat) :
    Nat → Nat × Code → Nat × Code
  | 0, place => place
  | n + 1, (next, code) =>
    let (start, code) := put next code
    optionalCopies put greedy stop n (emit code (preferring greedy start stop))

mutual

/-- The address at which an expression followed by the code at `next` starts. -/
def compileTo (next : Nat) (code : Code) : Regex → Nat × Code
  | .empty => (next, code)
  | .set s => emit code (.read s next)
  | .look a => emit code (.look a next)
  | .concat parts => compileConcat next code parts
  | .alternate branches => compileAlternate next code branches
  | .repetition least most greedy body =>
    let put := fun next code => compileTo next code body
    match most with
    | none =>
      -- at least `max least 1` copies, the last of which may be repeated
      let (loop, code) := emit code .accept
      let (start, code) := put loop code
      let code := code.set! loop (preferring greedy start next)
      if least = 0 then
        if body.canBeEmpty then emit code (preferring greedy start next) else (loop, code)
      else copies put (least - 1) (start, code)
    | some most => copies put least (optionalCopies put greedy next (most - least) (next, code))

def compileConcat (next : Nat) (code : Code) : List Regex → Nat × Code
  | [] => (next, code)
  | r :: rest =>
    let (next, code) := compileConcat next code rest
    compileTo next code r

def compileAlternate (next : Nat) (code : Code) : List Regex → Nat × Code
  | [] => emit code (.read .empty next)
  | [r] => compileTo next code r
  | r :: rest =>
    let (second, code) := compileAlternate next code rest
    let (first, code) := compileTo next code r
    emit code (.fork first second)

end

/-- The instructions of an expression, and the address at which they start. -/
structure Program where
  code : Code
  start : Nat
  deriving Inhabited

/-- The program of an expression. -/
def compile (r : Regex) : Program :=
  let (accept, code) := emit #[] .accept
  let (start, code) := compileTo accept code r
  { code, start }

end Turnstile.Regex
