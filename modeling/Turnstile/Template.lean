/-!
# Command templates

In a template `%name%` stands for the value of a parameter and `%%` for a percent sign; every other
text, a lone percent sign included, stands for itself. `pieces` splits a template once, from the
left; rendering fills in the values without looking at them again.
-/

namespace Turnstile.Template

/-- A piece of a template. -/
inductive Piece where
  /-- A character that stands for itself. -/
  | literal (c : Char)
  /-- An occurrence of a parameter. -/
  | parameter (name : String)
  deriving DecidableEq, Repr

/-- True of the characters that a parameter's name may start with. -/
def isNameStart (c : Char) : Bool := c.isAlpha || c = '_'

/-- True of the characters that a parameter's name is made of. -/
def isNameChar (c : Char) : Bool := c.isAlphanum || c = '_'

/-- True of a character that goes on with a name, of which some characters are read. -/
def continuesName (name : List Char) (c : Char) : Bool :=
  if name.isEmpty then isNameStart c else isNameChar c

/-- The pieces of a percent sign and characters after it that turned out to be no occurrence. -/
def literally (name : List Char) : List Piece :=
  .literal '%' :: name.reverse.map .literal

/-- The pieces of the rest of a template. After a percent sign, `name` holds in reverse the
characters read since; it is absent elsewhere. -/
def piecesFrom : Option (List Char) → List Char → List Piece
  | none, [] => []
  | some name, [] => literally name
  | none, c :: rest =>
    if c = '%' then piecesFrom (some []) rest else .literal c :: piecesFrom none rest
  | some name, c :: rest =>
    if c = '%' then
      (if name.isEmpty then .literal '%' else .parameter (String.ofList name.reverse)) ::
        piecesFrom none rest
    else if continuesName name c then piecesFrom (some (c :: name)) rest
    else literally name ++ .literal c :: piecesFrom none rest

/-- The pieces of a template, from the left. -/
def pieces (cs : List Char) : List Piece := piecesFrom none cs

/-- The names in pieces, each once, in the order of their first occurrence. -/
def namesOf (ps : List Piece) : List String :=
  (ps.foldl (fun seen p => match p with
    | .parameter name => if seen.contains name then seen else name :: seen
    | .literal _ => seen) []).reverse

/-- The names of the parameters of a template, in the order of their first occurrence. -/
def referenced (template : String) : List String := namesOf (pieces template.toList)

/-- The text of a piece, given the values of parameters. A parameter without value leaves a percent
sign. -/
def Piece.text (value : String → Option String) : Piece → List Char
  | .literal c => [c]
  | .parameter name => match value name with
    | some v => v.toList
    | none => ['%']

/-- Fills in the values of parameters. -/
def fill (template : String) (value : String → Option String) : String :=
  String.ofList ((pieces template.toList).flatMap (Piece.text value))

end Turnstile.Template
