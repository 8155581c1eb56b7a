import Turnstile.Regex.Named

/-!
# Quoted text for reading

The form in which a prompt shows a text: in double quotes, with escapes for the quote, for the
backslash, and for every character that shows badly, such as control characters, blanks other than
the space, unassigned code points, and marks that would join the character before them.
-/

namespace Turnstile.Text

/-- The characters that are shown by their code points. -/
def unshown : CharSet :=
  CharSet.unionAll <| CharSet.property "Grapheme_Extend" ::
    ["Cc", "Cf", "Cs", "Co", "Cn", "Zl", "Zp", "Zs"].map CharSet.category

/-- How a character stands between the quotes. -/
def quotedChar (c : Char) : List Char :=
  if c = '"' then ['\\', '"']
  else if c = '\\' then ['\\', '\\']
  else if c = '\n' then ['\\', 'n']
  else if c = '\r' then ['\\', 'r']
  else if c = '\t' then ['\\', 't']
  else if c = '\x00' then ['\\', '0']
  else if c = ' ' || !unshown.contains c.toNat then [c]
  else ['\\', 'u', '\x7b'] ++ Nat.toDigits 16 c.toNat ++ ['\x7d']

/-- A text in quotes. -/
def quoted (s : String) : String :=
  String.ofList ('"' :: (s.toList.flatMap quotedChar ++ ['"']))

end Turnstile.Text
