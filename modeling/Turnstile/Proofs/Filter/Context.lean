import Mathlib.Data.List.Basic
import Turnstile.Proofs.Filter.Selection

/-!
# The lines that a selection keeps

A line is tested without what ends it (`IsBody`), and it is kept if it has a line that matches
within the distance (`HasMatchNear`). **Theorem** (`grep_keeps`): the lines of a selection are
exactly these lines of the text, each once and in their order; selecting again changes nothing;
and a larger distance keeps them all.

The second pass does not depend on what was dropped. The numbers of the kept lines increase
strictly (`pairwise_keptNumbers`), so two kept lines are never further apart in the selection than
they were in the text (`Near.of_increasing`), and a line that matches is near itself and kept.
-/

namespace Turnstile.Filter

open Text

/-! ### What of a line is tested -/

/-- What may end a line and is not tested. -/
def endings : List (List Char) := [[], ['\r'], ['\n'], ['\r', '\n']]

/-- A line without the longest of its endings. -/
structure IsBody (body line : List Char) : Prop where
  ending : ∃ e ∈ endings, line = body ++ e
  longest : ∀ e ∈ endings, e <:+ line → body.length + e.length ≤ line.length

/-- A line has one body. -/
theorem IsBody.unique {body other line : List Char} (h : IsBody body line)
    (h' : IsBody other line) : body = other := by
  obtain ⟨e, he, hline⟩ := h.ending
  obtain ⟨e', he', hline'⟩ := h'.ending
  have hle := h.longest e' he' ⟨other, hline'.symm⟩
  have hge := h'.longest e he ⟨body, hline.symm⟩
  have hlength := congrArg List.length hline
  have hlength' := congrArg List.length hline'
  simp only [List.length_append] at hlength hlength'
  exact List.append_inj_left (hline.symm.trans hline') (by omega)

/-- A line ends in one of four ways. -/
theorem mem_endings_iff {e : List Char} :
    e ∈ endings ↔ e = [] ∨ e = ['\r'] ∨ e = ['\n'] ∨ e = ['\r', '\n'] := by
  simp [endings]

/-- An ending with a character shows the last character of the line. -/
theorem getLast?_of_suffix {e line : List Char} (h : e <:+ line) {c : Char}
    (hc : e.getLast? = some c) : line.getLast? = some c := by
  obtain ⟨front, rfl⟩ := h
  simp [List.getLast?_append, hc]

/-- Behind a newline, a carriage return in front of it is the only thing that can be longer. -/
theorem isBody_of_newline {front : List Char} :
    IsBody (lineBody (front ++ ['\n'])) (front ++ ['\n']) := by
  by_cases hreturn : front.getLast? = some '\r'
  · obtain ⟨body, rfl⟩ := List.getLast?_eq_some_iff.mp hreturn
    have hbody : lineBody (body ++ ['\r'] ++ ['\n']) = body := by simp [lineBody]
    rw [hbody]
    refine ⟨⟨['\r', '\n'], by simp [endings], by simp⟩, ?_⟩
    intro e he _
    rcases mem_endings_iff.mp he with rfl | rfl | rfl | rfl <;> simp
  · have hbody : lineBody (front ++ ['\n']) = front := by simp [lineBody, hreturn]
    rw [hbody]
    refine ⟨⟨['\n'], by simp [endings], rfl⟩, ?_⟩
    intro e he hsuffix
    rcases mem_endings_iff.mp he with rfl | rfl | rfl | rfl
    · simp
    · simp
    · simp
    · -- the carriage return would be the last character in front of the newline
      obtain ⟨body, hbody⟩ := hsuffix
      have hfront : body ++ ['\r'] = front := by
        have hline : body ++ ['\r'] ++ ['\n'] = front ++ ['\n'] := by simpa using hbody
        exact List.append_cancel_right hline
      simp [← hfront] at hreturn

/-- The tested part of a line is what is left without its longest ending. -/
theorem isBody_lineBody (line : List Char) : IsBody (lineBody line) line := by
  by_cases hnewline : line.getLast? = some '\n'
  · obtain ⟨front, rfl⟩ := List.getLast?_eq_some_iff.mp hnewline
    exact isBody_of_newline
  · by_cases hreturn : line.getLast? = some '\r'
    · obtain ⟨body, rfl⟩ := List.getLast?_eq_some_iff.mp hreturn
      have hbody : lineBody (body ++ ['\r']) = body := by simp [lineBody]
      rw [hbody]
      refine ⟨⟨['\r'], by simp [endings], rfl⟩, ?_⟩
      intro e he hsuffix
      rcases mem_endings_iff.mp he with rfl | rfl | rfl | rfl
      · simp
      · simp
      · exact absurd (getLast?_of_suffix hsuffix rfl) hnewline
      · exact absurd (getLast?_of_suffix hsuffix rfl) hnewline
    · have hbody : lineBody line = line := by simp [lineBody, hnewline, hreturn]
      rw [hbody]
      refine ⟨⟨[], by simp [endings], by simp⟩, ?_⟩
      intro e he hsuffix
      rcases mem_endings_iff.mp he with rfl | rfl | rfl | rfl
      · simp
      · exact absurd (getLast?_of_suffix hsuffix rfl) hreturn
      · exact absurd (getLast?_of_suffix hsuffix rfl) hnewline
      · exact absurd (getLast?_of_suffix hsuffix rfl) hnewline

/-- A line satisfies the condition without what ends it. -/
def Matches (isMatch : List Char → Bool) (line : List Char) : Prop :=
  ∃ body, IsBody body line ∧ isMatch body = true

/-- A line matches if its body does. -/
theorem matches_iff {isMatch : List Char → Bool} {line : List Char} :
    Matches isMatch line ↔ isMatch (lineBody line) = true := by
  constructor
  · rintro ⟨body, hbody, hmatch⟩
    rwa [(isBody_lineBody line).unique hbody]
  · intro hmatch
    exact ⟨lineBody line, isBody_lineBody line, hmatch⟩

/-! ### The numbers of the kept lines -/

section numbers

variable (isMatch : List Char → Bool) (context : Nat) (text : List Char)

/-- A line that matches stands at most `context` lines away from line `i`. -/
def HasMatchNear (i : Nat) : Prop :=
  ∃ j line, (lines text)[j]? = some line ∧ Matches isMatch line ∧ Near context i j

/-- The marks that a selection gives to the lines of a text. -/
def marks : List Bool := cover context ((lines text).map fun line => isMatch (lineBody line))

/-- The numbers of the lines that a selection keeps. -/
def keptNumbers : List Nat :=
  (List.range (lineCount text)).filter fun i => (marks isMatch context text)[i]? == some true

/-- Each line of the text is marked or not. -/
@[simp] theorem length_marks : (marks isMatch context text).length = lineCount text := by
  simp [marks, lineCount]

/-- The numbers kept are those of the lines with a match near them. -/
theorem mem_keptNumbers_iff (i : Nat) :
    i ∈ keptNumbers isMatch context text ↔
      i < lineCount text ∧ HasMatchNear isMatch context text i := by
  rw [keptNumbers, List.mem_filter, List.mem_range, beq_iff_eq]
  apply and_congr_right
  intro hi
  rw [marks, getElem?_cover_iff (by simpa [lineCount] using hi)]
  constructor
  · rintro ⟨j, hj, hnear⟩
    rw [List.getElem?_map, Option.map_eq_some_iff] at hj
    obtain ⟨line, hline, hmatch⟩ := hj
    exact ⟨j, line, hline, matches_iff.mpr hmatch, hnear⟩
  · rintro ⟨j, line, hline, hmatch, hnear⟩
    refine ⟨j, ?_, hnear⟩
    simp [hline, matches_iff.mp hmatch]

/-- They ascend. -/
theorem pairwise_keptNumbers : (keptNumbers isMatch context text).Pairwise (· < ·) :=
  List.pairwise_lt_range.filter _

/-- A larger distance keeps every line that a smaller one keeps. -/
theorem keptNumbers_sublist (more : Nat) :
    (keptNumbers isMatch context text).Sublist (keptNumbers isMatch (context + more) text) := by
  apply List.monotone_filter_right
  intro i hkept
  have hi : i < lineCount text := by
    rw [beq_iff_eq] at hkept
    simpa using (List.getElem?_eq_some_iff.mp hkept).1
  have hmem : i ∈ keptNumbers isMatch context text :=
    List.mem_filter.mpr ⟨List.mem_range.mpr hi, hkept⟩
  obtain ⟨-, j, line, hline, hmatch, hnear⟩ := (mem_keptNumbers_iff _ _ _ i).mp hmem
  have hnear' : Near (context + more) i j := by
    unfold Near at *
    omega
  have hmem' := (mem_keptNumbers_iff isMatch (context + more) text i).mpr
    ⟨hi, j, line, hline, hmatch, hnear'⟩
  exact (List.mem_filter.mp hmem').2

end numbers

/-! ### The lines of a selection -/

/-- The chosen ones of a list of lines. -/
def chosenLines (ls : List (List Char)) (kept : List Bool) : List (List Char) :=
  ((ls.zip kept).filter (·.2)).map (·.1)

/-- Chosen lines are in the order of the text. -/
theorem chosenLines_sublist (ls : List (List Char)) (kept : List Bool) :
    (chosenLines ls kept).Sublist ls := by
  induction ls generalizing kept with
  | nil => simp [chosenLines]
  | cons line ls ih =>
      cases kept with
      | nil => simp [chosenLines]
      | cons keep kept =>
          cases keep with
          | true => exact (ih kept).cons_cons line
          | false => exact (ih kept).cons line

/-- The chosen lines by their numbers. -/
theorem map_some_chosenLines {ls : List (List Char)} {kept : List Bool}
    (hlength : kept.length = ls.length) :
    (chosenLines ls kept).map some =
      ((List.range ls.length).filter fun i => kept[i]? == some true).map fun i => ls[i]? := by
  induction ls generalizing kept with
  | nil => simp [chosenLines]
  | cons line ls ih =>
      obtain ⟨keep, kept, rfl⟩ := List.exists_cons_of_length_eq_add_one hlength
      have ih := ih (Nat.succ.inj hlength)
      rw [List.length_cons, List.range_succ_eq_map]
      cases keep with
      | true =>
          have hchosen : chosenLines (line :: ls) (true :: kept) = line :: chosenLines ls kept :=
            rfl
          simp [hchosen, ih, List.filter_map, Function.comp_def]
      | false =>
          have hchosen : chosenLines (line :: ls) (false :: kept) = chosenLines ls kept := rfl
          simp [hchosen, ih, List.filter_map, Function.comp_def]

section selection

variable (isMatch : List Char → Bool) (context : Nat) (text : List Char)

/-- The lines of a selection are the chosen ones, as they were. -/
theorem lines_grep :
    lines (grep isMatch context text) = chosenLines (lines text) (marks isMatch context text) := by
  have hgrep : grep isMatch context text =
      (chosenLines (lines text) (marks isMatch context text)).flatten := by
    rw [grep_eq_chosen, chosen, List.flatMap_def]
    rfl
  rw [hgrep]
  exact lines_flatten ((lines_spec text).sublist (chosenLines_sublist _ _))

/-- The lines of a selection are those with the kept numbers. -/
theorem map_some_lines_grep :
    (lines (grep isMatch context text)).map some =
      (keptNumbers isMatch context text).map fun i => (lines text)[i]? := by
  have hlength : (marks isMatch context text).length = (lines text).length := by
    simp [lineCount]
  rw [lines_grep, map_some_chosenLines hlength]
  rfl

/-- A selection has as many lines as are kept. -/
theorem lineCount_grep :
    lineCount (grep isMatch context text) = (keptNumbers isMatch context text).length := by
  have h := congrArg List.length (map_some_lines_grep isMatch context text)
  simpa [lineCount] using h

/-- Line `p` of a selection is the line of the text with the number at place `p`. -/
theorem getElem?_lines_grep {p i : Nat}
    (hp : (keptNumbers isMatch context text)[p]? = some i) :
    (lines (grep isMatch context text))[p]? = (lines text)[i]? := by
  have h := congrArg (fun ls => ls[p]?) (map_some_lines_grep isMatch context text)
  simp only [List.getElem?_map, hp, Option.map_some] at h
  obtain ⟨line, hline, hsome⟩ := Option.map_eq_some_iff.mp h
  rw [hline, hsome]

/-! ### Selecting again -/

/-- In a list of numbers that increase strictly, places are no further apart than the numbers. -/
theorem add_le_of_increasing {numbers : List Nat} (h : numbers.Pairwise (· < ·)) {p i j : Nat}
    (steps : Nat) (hp : numbers[p]? = some i) (hq : numbers[p + steps]? = some j) :
    i + steps ≤ j := by
  induction steps generalizing j with
  | zero =>
      have hij : i = j := Option.some.inj (hp.symm.trans hq)
      omega
  | succ steps ih =>
      obtain ⟨hlast, rfl⟩ := List.getElem?_eq_some_iff.mp hq
      have hbefore : p + steps < numbers.length := by omega
      have hle := ih (List.getElem?_eq_getElem hbefore)
      have hlt := List.pairwise_iff_getElem.mp h (p + steps) (p + (steps + 1)) hbefore hlast
        (by omega)
      omega

/-- Lines come no further apart when others between them are dropped. -/
theorem Near.of_increasing {numbers : List Nat} (h : numbers.Pairwise (· < ·)) {c p q i j : Nat}
    (hp : numbers[p]? = some i) (hq : numbers[q]? = some j) (hnear : Near c i j) : Near c p q := by
  unfold Near at *
  rcases Nat.le_total p q with hle | hle
  · obtain ⟨steps, rfl⟩ := Nat.exists_eq_add_of_le hle
    have hsteps := add_le_of_increasing h steps hp hq
    omega
  · obtain ⟨steps, rfl⟩ := Nat.exists_eq_add_of_le hle
    have hsteps := add_le_of_increasing h steps hq hp
    omega

/-- A line that matches is near itself, so it is kept. -/
theorem mem_keptNumbers_of_matches {j : Nat} {line : List Char}
    (hline : (lines text)[j]? = some line) (hmatch : Matches isMatch line) :
    j ∈ keptNumbers isMatch context text := by
  rw [mem_keptNumbers_iff]
  have hj : j < (lines text).length := (List.getElem?_eq_some_iff.mp hline).1
  exact ⟨hj, j, line, hline, hmatch, Nat.le_add_right j context, Nat.le_add_right j context⟩

/-- To select twice is to select once. -/
theorem grep_grep :
    grep isMatch context (grep isMatch context text) = grep isMatch context text := by
  rw [grep_eq_self_iff]
  intro p hp
  rw [lineCount_grep] at hp
  have hp := List.getElem?_eq_getElem hp
  obtain ⟨-, j, line, hline, hmatch, hnear⟩ := (mem_keptNumbers_iff isMatch context text _).mp
    (List.mem_of_getElem? hp)
  obtain ⟨q, hq⟩ := List.mem_iff_getElem?.mp
    (mem_keptNumbers_of_matches isMatch context text hline hmatch)
  refine ⟨q, line, ?_, matches_iff.mp hmatch, ?_⟩
  · rw [getElem?_lines_grep isMatch context text hq, hline]
  · exact hnear.of_increasing (pairwise_keptNumbers isMatch context text) hp hq

/-- **A selection keeps exactly the lines with a match near**, in their order and each once; it
keeps all of its own result, and whatever a smaller distance keeps. -/
theorem grep_keeps :
    (∃ kept : List Nat, kept.Pairwise (· < ·) ∧
        (∀ i, i ∈ kept ↔ i < lineCount text ∧ HasMatchNear isMatch context text i) ∧
        (lines (grep isMatch context text)).map some = kept.map fun i => (lines text)[i]?) ∧
      grep isMatch context (grep isMatch context text) = grep isMatch context text ∧
      ∀ more, (lines (grep isMatch context text)).Sublist
        (lines (grep isMatch (context + more) text)) := by
  refine ⟨⟨keptNumbers isMatch context text, pairwise_keptNumbers isMatch context text,
    mem_keptNumbers_iff isMatch context text, map_some_lines_grep isMatch context text⟩,
    grep_grep isMatch context text, ?_⟩
  intro more
  have hsublist := (keptNumbers_sublist isMatch context text more).map fun i => (lines text)[i]?
  rw [← map_some_lines_grep, ← map_some_lines_grep] at hsublist
  have hlines := hsublist.filterMap id
  simpa using hlines

end selection

end Turnstile.Filter
