import Turnstile.Wildcard

/-!
# Patterns of the shell

Text in which each character is marked: characters that were quoted stand for themselves, the
others may be wildcards. A pattern is compared by means of `Wildcard.compare`.
-/

namespace Turnstile.Shell

/-- Where a character of an expanded word comes from. -/
inductive Mark where
  /-- Written in the script. -/
  | literal
  /-- The result of an expansion, which may be split into fields. -/
  | expanded
  | quoted
  deriving DecidableEq, Repr

/-- Marked text. -/
abbrev Marked := List (Char × Mark)

/-- The text without its marks. -/
def Marked.text (m : Marked) : String := String.ofList (m.map (·.1))

namespace Pattern

/-- The characters of a class of a given name. -/
def named? : String → Option (List ClassMember)
  | "alpha" => some [.range 'a' 'z', .range 'A' 'Z']
  | "digit" => some [.range '0' '9']
  | "alnum" => some [.range 'a' 'z', .range 'A' 'Z', .range '0' '9']
  | "upper" => some [.range 'A' 'Z']
  | "lower" => some [.range 'a' 'z']
  | "space" => some [.single ' ', .range '\t' '\r']
  | "blank" => some [.single ' ', .single '\t']
  | "punct" => some [.range '!' '/', .range ':' '@', .range '[' '\x60', .range '\x7b' '~']
  | "print" => some [.range ' ' '~']
  | "graph" => some [.range '!' '~']
  | "cntrl" => some [.range '\x00' '\x1f', .single '\x7f']
  | "xdigit" => some [.range '0' '9', .range 'a' 'f', .range 'A' 'F']
  | _ => none

/-- The members of a class up to its bracket, and the rest; none if the class is not closed. The
first member cannot be the bracket. -/
def members? : Nat → Bool → List ClassMember → Marked → Option (List ClassMember × Marked)
  | 0, _, _, _ => none
  | fuel + 1, isFirst, acc, m =>
    let single := fun (c : Char) (rest : Marked) =>
      match rest with
      | ('-', .literal) :: (d, q) :: rest | ('-', .expanded) :: (d, q) :: rest =>
        if d = ']' && q ≠ .quoted then
          members? fuel false (.single '-' :: .single c :: acc) ((d, q) :: rest)
        else members? fuel false (.range c d :: acc) rest
      | rest => members? fuel false (.single c :: acc) rest
    match m with
    | [] => none
    | (c, q) :: rest =>
      if c = ']' && q ≠ .quoted && !isFirst then some (acc.reverse, rest)
      else if c = '[' && q ≠ .quoted && (rest.head?.map (·.1)) = some ':' then
        let name := (rest.drop 1).takeWhile fun (c, _) => c.isAlpha
        match named? (String.ofList (name.map (·.1))), rest.drop (name.length + 1) with
        | some more, (':', _) :: (']', _) :: rest =>
          members? fuel false (more.reverse ++ acc) rest
        | _, _ => single c rest
      else single c rest

/-- The wildcards of marked text. -/
def tokens : Nat → Marked → List WildcardToken
  | 0, _ => []
  | fuel + 1, m =>
    match m with
    | [] => []
    | (c, .quoted) :: rest => .char c :: tokens fuel rest
    | ('*', _) :: rest => .anyRun :: tokens fuel rest
    | ('?', _) :: rest => .anyChar :: tokens fuel rest
    | ('\\', _) :: (c, _) :: rest => .char c :: tokens fuel rest
    | ('[', _) :: rest =>
      let (isExcept, inner) := match rest with
        | ('!', .literal) :: inner | ('!', .expanded) :: inner => (true, inner)
        | inner => (false, inner)
      match members? (inner.length + 1) true [] inner with
      | some (ms, rest) => (if isExcept then .except ms else .within ms) :: tokens fuel rest
      | none => .char '[' :: tokens fuel rest
    | (c, _) :: rest => .char c :: tokens fuel rest

/-- The wildcards of marked text. -/
def ofMarked (m : Marked) : List WildcardToken := tokens (m.length + 1) m

/-- True if wildcards stand for a whole text. -/
def isMatch (p : List WildcardToken) (text : List Char) : Bool :=
  Wildcard.compare false p text == .hit

/-- True of wildcards that stand for more than one text. -/
def hasWildcard (p : List WildcardToken) : Bool :=
  p.any fun t => match t with
    | .char _ => false
    | _ => true

/-- A text without the longest, or the shortest, start that a pattern stands for. -/
def trimStart (p : List WildcardToken) (longest : Bool) (text : List Char) : List Char :=
  let cuts := List.range (text.length + 1)
  let cuts := if longest then cuts.reverse else cuts
  match cuts.find? fun n => isMatch p (text.take n) with
  | some n => text.drop n
  | none => text

/-- A text without the longest, or the shortest, end that a pattern stands for. -/
def trimEnd (p : List WildcardToken) (longest : Bool) (text : List Char) : List Char :=
  let cuts := List.range (text.length + 1)
  let cuts := if longest then cuts else cuts.reverse
  match cuts.find? fun n => isMatch p (text.drop n) with
  | some n => text.take n
  | none => text

end Pattern

end Turnstile.Shell
