/-!
# Lines

A line is a maximal piece of text that ends with a newline, or the unterminated rest. `lines` keeps
the newlines, so joining the lines gives the text back (`flatten_lines`), and no line is empty
(`ne_nil_of_mem_lines`).
-/

namespace Turnstile.Text

/-- Puts a character in front of a text that is split into lines. -/
def consLine (c : Char) (ls : List (List Char)) : List (List Char) :=
  if c = '\n' then [c] :: ls
  else match ls with
    | [] => [[c]]
    | line :: more => (c :: line) :: more

/-- The lines of a text, each with its newline. -/
def lines (cs : List Char) : List (List Char) := cs.foldr consLine []

@[simp] theorem lines_nil : lines [] = [] := rfl

@[simp] theorem lines_cons (c : Char) (cs : List Char) : lines (c :: cs) = consLine c (lines cs) :=
  rfl

/-- Joining after `consLine` is joining with the character in front. -/
theorem flatten_consLine (c : Char) (ls : List (List Char)) :
    (consLine c ls).flatten = c :: ls.flatten := by
  unfold consLine
  split
  · simp
  · split <;> simp

/-- Nothing is lost by splitting into lines. -/
theorem flatten_lines (cs : List Char) : (lines cs).flatten = cs := by
  induction cs with
  | nil => rfl
  | cons c cs ih => rw [lines_cons, flatten_consLine, ih]

/-- No line is empty. -/
theorem ne_nil_of_mem_lines {cs line : List Char} (h : line ∈ lines cs) : line ≠ [] := by
  induction cs generalizing line with
  | nil => simp at h
  | cons c cs ih =>
    rw [lines_cons] at h
    unfold consLine at h
    split at h
    · rcases List.mem_cons.1 h with rfl | h
      · simp
      · exact ih h
    · split at h
      · simp_all
      · next first more hl =>
        rcases List.mem_cons.1 h with rfl | h
        · simp
        · exact ih (by rw [hl]; exact List.mem_cons_of_mem _ h)

/-- The number of lines of a text. -/
def lineCount (cs : List Char) : Nat := (lines cs).length

/-- A line without its newline, and without a carriage return before it. -/
def lineBody (line : List Char) : List Char :=
  let line := if line.getLast? = some '\n' then line.dropLast else line
  if line.getLast? = some '\r' then line.dropLast else line

end Turnstile.Text
