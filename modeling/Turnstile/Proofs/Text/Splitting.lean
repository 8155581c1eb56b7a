import Turnstile.Text.Lines

/-!
# Texts and their lines

`Text.Lines` describes lists of lines without splitting anything: every line but the last ends with
its only newline, and the last may lack it. **Theorem** (`lines_eq_iff`): `lines` is the one
way to write a text as such a list.

The number of lines never grows when characters are taken out (`lineCount_le_of_sublist`), at either
end or in the middle, and behind whole lines it adds up (`lines_flatten_append`).
-/

namespace Turnstile.Text

/-! ### Lists of lines -/

/-- A line with a newline at its end and nowhere else. -/
def Terminated (line : List Char) : Prop := ∃ body, '\n' ∉ body ∧ line = body ++ ['\n']

/-- Lists of lines: the last line may lack its newline, if it has a character. -/
inductive Lines : List (List Char) → Prop where
  | nil : Lines []
  | last {line : List Char} : line ≠ [] → '\n' ∉ line → Lines [line]
  | cons {line : List Char} {ls : List (List Char)} :
      Terminated line → Lines ls → Lines (line :: ls)

/-- Lines in front of others are terminated. -/
theorem Lines.terminated {xs ys : List (List Char)} (h : Lines (xs ++ ys)) (hys : ys ≠ []) :
    ∀ line ∈ xs, Terminated line := by
  induction xs with
  | nil => exact fun _ hline => absurd hline List.not_mem_nil
  | cons x xs ih =>
      intro line hline
      generalize hall : x :: xs ++ ys = all at h
      cases h with
      | nil => cases hall
      | last =>
          have hnil := (List.cons.inj hall).2
          exact absurd (List.append_eq_nil_iff.mp hnil).2 hys
      | cons hx hrest =>
          obtain ⟨rfl, rfl⟩ := List.cons.inj hall
          rcases List.mem_cons.mp hline with rfl | hline
          · exact hx
          · exact ih hrest line hline

/-- What is left of lines, in their order, are lines. -/
theorem Lines.sublist {ls kept : List (List Char)} (h : Lines ls) (hkept : kept.Sublist ls) :
    Lines kept := by
  induction h generalizing kept with
  | nil =>
      rw [List.sublist_nil.mp hkept]
      exact .nil
  | last hne hbody =>
      rcases List.sublist_cons_iff.mp hkept with hnil | ⟨rest, rfl, hnil⟩
      · rw [List.sublist_nil.mp hnil]
        exact .nil
      · rw [List.sublist_nil.mp hnil]
        exact .last hne hbody
  | cons hline hls ih =>
      rcases List.sublist_cons_iff.mp hkept with hrest | ⟨rest, rfl, hrest⟩
      · exact ih hrest
      · exact .cons hline (ih hrest)

/-! ### Splitting -/

/-- A line feed begins a line of its own, in front of the others. -/
theorem consLine_newline (ls : List (List Char)) : consLine '\n' ls = ['\n'] :: ls := by
  simp [consLine]

/-- Any other character belongs to the first line. -/
theorem consLine_of_ne {c : Char} (hc : c ≠ '\n') (line : List Char) (ls : List (List Char)) :
    consLine c (line :: ls) = (c :: line) :: ls := by
  rw [consLine, if_neg hc]

/-- Where there is no line, it begins one. -/
theorem consLine_nil {c : Char} (hc : c ≠ '\n') : consLine c [] = [[c]] := by
  rw [consLine, if_neg hc]

/-- A terminated line is split off. -/
theorem lines_terminated_append {line : List Char} (h : Terminated line) (rest : List Char) :
    lines (line ++ rest) = line :: lines rest := by
  obtain ⟨body, hbody, rfl⟩ := h
  induction body with
  | nil => exact consLine_newline (lines rest)
  | cons c body ih =>
      obtain ⟨hc, hbody⟩ := not_or.mp (fun h => hbody (List.mem_cons.mpr h))
      rw [List.cons_append, List.cons_append, lines_cons, ih hbody,
        consLine_of_ne (fun h => hc h.symm)]

/-- A text without newline is one line. -/
theorem lines_of_not_mem {line : List Char} (hne : line ≠ []) (h : '\n' ∉ line) :
    lines line = [line] := by
  induction line with
  | nil => exact absurd rfl hne
  | cons c rest ih =>
      obtain ⟨hc, hrest⟩ := not_or.mp (fun hmem => h (List.mem_cons.mpr hmem))
      have hc : c ≠ '\n' := fun heq => hc heq.symm
      rw [lines_cons]
      by_cases hnil : rest = []
      · rw [hnil, lines_nil, consLine_nil hc]
      · rw [ih hnil hrest, consLine_of_ne hc]

/-- Terminated lines are split off, whatever follows them. -/
theorem lines_flatten_append {xs : List (List Char)} (h : ∀ line ∈ xs, Terminated line)
    (rest : List Char) : lines (xs.flatten ++ rest) = xs ++ lines rest := by
  induction xs with
  | nil => rfl
  | cons x xs ih =>
      rw [List.flatten_cons, List.append_assoc, lines_terminated_append (h x List.mem_cons_self),
        ih fun line hline => h line (List.mem_cons_of_mem _ hline), List.cons_append]

/-- Splitting makes lines. -/
theorem lines_spec (cs : List Char) : Lines (lines cs) := by
  induction cs with
  | nil => exact .nil
  | cons c cs ih =>
      rw [lines_cons]
      by_cases hc : c = '\n'
      · rw [hc, consLine_newline]
        exact .cons ⟨[], List.not_mem_nil, rfl⟩ ih
      · have hne : '\n' ≠ c := fun heq => hc heq.symm
        generalize lines cs = ls at ih
        cases ih with
        | nil =>
            rw [consLine_nil hc]
            exact .last (List.cons_ne_nil c []) (by simp [hne])
        | last _ hbody =>
            rw [consLine_of_ne hc]
            exact .last (List.cons_ne_nil c _) (by simp [hne, hbody])
        | cons hline hls =>
            obtain ⟨body, hbody, rfl⟩ := hline
            rw [consLine_of_ne hc]
            exact .cons ⟨c :: body, by simp [hne, hbody], rfl⟩ hls

/-- Joined lines are split into the same lines. -/
theorem lines_flatten {ls : List (List Char)} (h : Lines ls) : lines ls.flatten = ls := by
  induction h with
  | nil => rfl
  | last hne hbody =>
      rw [List.flatten_cons, List.flatten_nil, List.append_nil]
      exact lines_of_not_mem hne hbody
  | cons hline _ ih => rw [List.flatten_cons, lines_terminated_append hline, ih]

/-- **Splitting is the one way to write a text as lines.** -/
theorem lines_eq_iff {cs : List Char} {ls : List (List Char)} :
    lines cs = ls ↔ Lines ls ∧ ls.flatten = cs := by
  constructor
  · rintro rfl
    exact ⟨lines_spec cs, Text.flatten_lines cs⟩
  · rintro ⟨h, rfl⟩
    exact lines_flatten h

/-! ### Counting -/

/-- A line feed is one line more, and any other character counts only on its own. -/
theorem lineCount_cons (c : Char) (cs : List Char) :
    lineCount (c :: cs) = if c = '\n' then lineCount cs + 1 else max 1 (lineCount cs) := by
  unfold lineCount
  rw [lines_cons]
  by_cases hc : c = '\n'
  · rw [if_pos hc, hc, consLine_newline, List.length_cons]
  · rw [if_neg hc]
    cases lines cs with
    | nil => rw [consLine_nil hc]; rfl
    | cons line more =>
        rw [consLine_of_ne hc, List.length_cons, List.length_cons]
        omega

/-- A text that is not empty has a line. -/
theorem lineCount_pos {cs : List Char} (h : cs ≠ []) : 0 < lineCount cs := by
  obtain ⟨c, cs, rfl⟩ := List.exists_cons_of_ne_nil h
  rw [lineCount_cons]
  split <;> omega

/-- Taking characters out of a text adds no line: a rest that has lost its newline counts for the
line that had it. -/
theorem lineCount_le_of_sublist {kept cs : List Char} (h : kept.Sublist cs) :
    lineCount kept ≤ lineCount cs := by
  induction h with
  | slnil => exact Nat.le_refl _
  | cons c _ ih =>
      rw [lineCount_cons]
      split <;> omega
  | cons_cons c _ ih =>
      rw [lineCount_cons, lineCount_cons]
      split <;> omega

/-- A beginning has no more lines than the whole. -/
theorem lineCount_le_append_right (cs rest : List Char) :
    lineCount cs ≤ lineCount (cs ++ rest) :=
  lineCount_le_of_sublist (List.sublist_append_left cs rest)

/-- An end has no more lines than the whole. -/
theorem lineCount_le_append_left (before cs : List Char) :
    lineCount cs ≤ lineCount (before ++ cs) :=
  lineCount_le_of_sublist (List.sublist_append_right before cs)

/-- Terminated lines end with a newline. -/
theorem getLast?_flatten {xs : List (List Char)} (h : ∀ line ∈ xs, Terminated line) {c : Char}
    (hc : xs.flatten.getLast? = some c) : c = '\n' := by
  induction xs generalizing c with
  | nil => cases hc
  | cons x xs ih =>
      rw [List.flatten_cons, List.getLast?_append] at hc
      cases hlast : xs.flatten.getLast? with
      | some d =>
          rw [hlast, Option.some_or] at hc
          obtain rfl := Option.some.inj hc
          exact ih (fun line hline => h line (List.mem_cons_of_mem _ hline)) hlast
      | none =>
          obtain ⟨body, -, rfl⟩ := h x List.mem_cons_self
          rw [hlast, Option.none_or, List.getLast?_concat] at hc
          exact (Option.some.inj hc).symm

/-- In front of a text, an end of terminated lines adds a line. -/
theorem lineCount_lt_append {xs : List (List Char)} (h : ∀ line ∈ xs, Terminated line)
    {before : List Char} (hbefore : before <:+ xs.flatten) (hne : before ≠ [])
    (rest : List Char) : lineCount rest < lineCount (before ++ rest) := by
  obtain ⟨front, hfront⟩ := hbefore
  have hc := List.getLast?_eq_some_getLast hne
  have hnewline : before.getLast hne = '\n' := by
    refine getLast?_flatten h ?_
    rw [← hfront, List.getLast?_append, hc, Option.some_or]
  obtain ⟨body, heq⟩ := List.getLast?_eq_some_iff.mp hc
  rw [heq, hnewline, List.append_assoc]
  refine Nat.lt_of_lt_of_le ?_ (lineCount_le_append_left body _)
  rw [List.singleton_append, lineCount_cons, if_pos rfl]
  exact Nat.lt_succ_self _

end Turnstile.Text
