/-!
# Syntax of the command language

Commands as the POSIX shell has them. A word is a list of parts, each of which says whether it
stands in quotes, since quoted text is neither split into fields nor compared as a pattern.

All text in the shell is made of octets; each is represented by the character with its number.
-/

namespace Turnstile.Shell

/-- What an expansion does beside looking up a parameter. -/
inductive ParamOp where
  /-- A word in place of a missing value. -/
  | useDefault
  /-- A word that is also assigned. -/
  | assignDefault
  /-- A message that ends the shell. -/
  | complain
  /-- A word in place of a value. -/
  | useOther
  /-- The value without a part at its start that a pattern stands for. -/
  | trimStart (longest : Bool)
  /-- The value without a part at its end that a pattern stands for. -/
  | trimEnd (longest : Bool)
  deriving DecidableEq, Repr

/-- What a redirection does with a descriptor. -/
inductive RedirectKind where
  | input
  | output
  | append
  | both
  /-- Makes it a copy of another descriptor. -/
  | copy
  /-- Gives it text to read. -/
  | document
  deriving DecidableEq, Repr

mutual

/-- A part of a word. -/
inductive Part where
  | text (s : String) (quoted : Bool)
  | param (name : String) (quoted : Bool)
  /-- A parameter with an operation; with `colon`, an empty value counts as missing. -/
  | paramWith (name : String) (op : ParamOp) (colon : Bool) (word : List Part) (quoted : Bool)
  /-- The length of a parameter's value. -/
  | paramLength (name : String) (quoted : Bool)
  | arithmetic (expression : List Part) (quoted : Bool)
  /-- The output of commands. -/
  | output (body : Command) (quoted : Bool)
  /-- Something between braces that is no expansion; it fails when it is reached. -/
  | bad

/-- A redirection of a descriptor. -/
inductive Redirect where
  | mk (descriptor : Nat) (kind : RedirectKind) (word : List Part)

/-- A command. -/
inductive Command where
  /-- Assignments, words and redirections, with the number of the line. -/
  | simple (line : Nat) (assigns : List (String × List Part)) (words : List (List Part))
      (redirects : List Redirect)
  | pipeline (commands : List Command)
  | negated (c : Command)
  | both (first second : Command)
  | either (first second : Command)
  | sequence (first second : Command)
  | background (c : Command)
  | subshell (c : Command)
  | redirected (c : Command) (redirects : List Redirect)
  | conditional (test yes no : Command)
  /-- Repeats a body while, or until, a test succeeds. -/
  | loop (onSuccess : Bool) (test body : Command)
  /-- Repeats a body for each word, or, without words, for each positional parameter. -/
  | forEach (name : String) (words : Option (List (List Part))) (body : Command)
  /-- Runs the first body one of whose patterns stands for a word. -/
  | select (word : List Part) (arms : List (List (List Part) × Command))
  | define (name : String) (body : Command)
  | nothing

end

instance : Inhabited Part := ⟨.bad⟩

instance : Inhabited Command := ⟨.nothing⟩

/-- A word: parts whose expansions are joined. -/
abbrev Word := List Part

/-- Text in which each character stands for an octet. -/
def octets (s : String) : String :=
  String.ofList ((s.toList.flatMap String.utf8EncodeChar).map fun b => Char.ofNat b.toNat)

/-- The octets that a text stands for. -/
def toBytes (s : String) : List UInt8 := s.toList.map fun c => c.toNat.toUInt8

/-- The text that stands for octets. -/
def ofBytes (bs : List UInt8) : String := String.ofList (bs.map fun b => Char.ofNat b.toNat)

end Turnstile.Shell
