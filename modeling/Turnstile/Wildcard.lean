/-!
# Wildcard patterns

Patterns for names: `?` stands for one character, `*` for any run of characters, `[ab-d]` for one
character of a class and `[!ab-d]` for one outside it. `**` is allowed as a whole component of a
path and marks the pattern as recursive.

* `parse?` reads a pattern, `escape` writes a text so that it stands for itself.
* `isMatch` compares a whole text with a pattern. Its answers are three: besides a hit and a miss
  there is `hopeless`, when the text ran out, so that no later place for an earlier `*` can help.
-/

namespace Turnstile

/-- A member of a class: one character or a range. -/
inductive ClassMember where
  | single (c : Char)
  | range (lo hi : Char)
  deriving DecidableEq, Repr

/-- What a part of a pattern stands for. -/
inductive WildcardToken where
  | char (c : Char)
  | anyChar
  /-- Any run of characters. -/
  | anyRun
  /-- Any run of path components. -/
  | anyPath
  | within (members : List ClassMember)
  | except (members : List ClassMember)
  deriving DecidableEq, Repr

/-- A pattern: its text and what it stands for. -/
structure Wildcard where
  text : String
  tokens : List WildcardToken
  deriving DecidableEq, Repr

namespace Wildcard

/-- The members of a class. A hyphen between two characters makes a range. -/
def classMembers : List Char → List ClassMember
  | [] => []
  | a :: '-' :: b :: rest => .range a b :: classMembers rest
  | a :: rest => .single a :: classMembers rest

/-- The class after an opening bracket, and the rest. Its first character cannot close it. -/
def class? (cs : List Char) : Option (WildcardToken × List Char) :=
  let close := fun (make : List ClassMember → WildcardToken) (body : List Char) =>
    match body with
    | [] => none
    | first :: more =>
      let inner := more.takeWhile (· ≠ ']')
      match more.drop inner.length with
      | [] => none
      | _ :: rest => some (make (classMembers (first :: inner)), rest)
  match cs with
  | '!' :: body => close .except body
  | body => close .within body

/-- Reads the tokens of a pattern. `before` is the last character read and `start` says that none
has been read. -/
def tokens? : Nat → Option Char → List WildcardToken → List Char → Option (List WildcardToken)
  | 0, _, _, _ => none
  | fuel + 1, before, acc, cs =>
    match cs with
    | [] => some acc.reverse
    | '?' :: rest => tokens? fuel (some '?') (.anyChar :: acc) rest
    | '*' :: rest =>
      let stars := rest.takeWhile (· = '*')
      let rest := rest.drop stars.length
      match stars with
      | [] => tokens? fuel (some '*') (.anyRun :: acc) rest
      | [_] =>
        -- a double star must fill a component
        if before = none ∨ before = some '/' then
          let acc' := match acc with
            | .anyPath :: _ :: _ => acc
            | _ => .anyPath :: acc
          match rest with
          | [] => tokens? fuel (some '*') acc' rest
          | '/' :: rest => tokens? fuel (some '/') acc' rest
          | _ => none
        else none
      | _ => none
    | '[' :: rest => do
      let (token, rest) ← class? rest
      tokens? fuel (some ']') (token :: acc) rest
    | c :: rest => tokens? fuel (some c) (.char c :: acc) rest

/-- Reads a pattern; `none` if a class is not closed or a run of stars is out of place. -/
def parse? (text : String) : Option Wildcard :=
  (tokens? (text.toList.length + 1) none [] text.toList).map fun tokens => { text, tokens }

/-- True of a pattern with a double star. -/
def isRecursive (w : Wildcard) : Bool := w.tokens.contains .anyPath

/-- A character as a pattern for itself. -/
def escapeChar (c : Char) : List Char :=
  if c = '?' || c = '*' || c = '[' || c = ']' then ['[', c, ']'] else [c]

/-- A text as a pattern for itself. -/
def escape (cs : List Char) : List Char := cs.flatMap escapeChar

/-- Equality of characters, up to the case of A to Z if case does not count. -/
def sameChar (ignoreCase : Bool) (a b : Char) : Bool :=
  if ignoreCase then a.toLower == b.toLower else a == b

/-- True of a member that holds a character. -/
def ClassMember.holds (ignoreCase : Bool) (c : Char) : ClassMember → Bool
  | .single d => sameChar ignoreCase c d
  | .range lo hi =>
    let folded := ignoreCase && lo.isAlpha && hi.isAlpha &&
      decide (lo.toLower ≤ c.toLower) && decide (c.toLower ≤ hi.toLower)
    folded || (decide (lo ≤ c) && decide (c ≤ hi))

/-- The outcome of a comparison. -/
inductive Verdict where
  | hit
  | miss
  /-- The text ran out before the pattern: starting later cannot help. -/
  | hopeless
  deriving DecidableEq, Repr

/-- Tries a comparison at each end of a text, the longest first, until one is no miss. -/
def tryEnds (f : List Char → Verdict) : List Char → Verdict
  | [] => f []
  | c :: rest =>
    match f (c :: rest) with
    | .miss => tryEnds f rest
    | v => v

/-- Tries a comparison at the start of a text and after each slash in it. -/
def tryComponents (f : List Char → Verdict) : List Char → Verdict
  | [] => .miss
  | c :: rest =>
    if c = '/' then
      match f rest with
      | .miss => tryComponents f rest
      | v => v
    else tryComponents f rest

/-- One character against one token. -/
def admits (ignoreCase : Bool) (c : Char) : WildcardToken → Bool
  | .char d => sameChar ignoreCase c d
  | .anyChar => true
  | .within members => members.any (ClassMember.holds ignoreCase c)
  | .except members => !members.any (ClassMember.holds ignoreCase c)
  | .anyRun | .anyPath => false

/-- Compares a whole text with tokens. -/
def compare (ignoreCase : Bool) : List WildcardToken → List Char → Verdict
  | [], cs => if cs.isEmpty then .hit else .miss
  | .anyRun :: tokens, cs => tryEnds (compare ignoreCase tokens) cs
  | .anyPath :: tokens, cs =>
    match compare ignoreCase tokens cs with
    | .miss => tryComponents (compare ignoreCase tokens) cs
    | v => v
  | _ :: _, [] => .hopeless
  | t :: tokens, c :: cs =>
    if admits ignoreCase c t then compare ignoreCase tokens cs else .miss

/-- True if a pattern stands for a whole text. -/
def isMatch (w : Wildcard) (ignoreCase : Bool) (text : String) : Bool :=
  compare ignoreCase w.tokens text.toList == .hit

end Wildcard

end Turnstile
