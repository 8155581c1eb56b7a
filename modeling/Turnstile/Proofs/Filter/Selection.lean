import Turnstile.Filter.Grep
import Turnstile.Proofs.Text.Splitting

/-!
# Which lines a selection keeps

A selection passes over the marked lines twice, once from either end, with a count of the lines
that are still to be kept. Together the two passes keep a line exactly if some marked line is
within the distance (`getElem?_cover_iff`). **Theorem** (`grep_eq_self_iff`): a selection leaves a
text alone exactly if each line has a line that satisfies the condition near it.

The pass from the left is restated as `behind`, which has its count as an argument, so that one
induction serves both passes.
-/

namespace Turnstile.Filter

open Text

/-! ### One pass -/

/-- The marks of one pass, where the next `left` lines are kept anyway. -/
def behind (context : Nat) : Nat → List Bool → List Bool
  | _, [] => []
  | left, mark :: marks =>
    if mark then true :: behind context context marks
    else decide (0 < left) :: behind context (left - 1) marks

/-- A marked line renews what is covered behind it. -/
theorem behind_true (context left : Nat) (marks : List Bool) :
    behind context left (true :: marks) = true :: behind context context marks := rfl

/-- A line that is not marked uses up one line of the context. -/
theorem behind_false (context left : Nat) (marks : List Bool) :
    behind context left (false :: marks) =
      decide (0 < left) :: behind context (left - 1) marks := rfl

/-- One line of a pass: the count of lines that are kept anyway, and the marks so far, reversed. -/
def passLine (context : Nat) (s : Nat × List Bool) (mark : Bool) : Nat × List Bool :=
  if mark then (context, true :: s.2) else (s.1 - 1, decide (0 < s.1) :: s.2)

/-- The pass collects what `behind` covers, newest first. -/
theorem foldl_passLine (context left : Nat) (marks acc : List Bool) :
    (marks.foldl (passLine context) (left, acc)).2.reverse =
      acc.reverse ++ behind context left marks := by
  induction marks generalizing left acc with
  | nil => exact (List.append_nil acc.reverse).symm
  | cons mark marks ih =>
      cases mark with
      | true =>
          have hline : passLine context (left, acc) true = (context, true :: acc) := rfl
          rw [List.foldl_cons, hline, ih, behind_true, List.reverse_cons, List.append_assoc]
          rfl
      | false =>
          have hline : passLine context (left, acc) false =
            (left - 1, decide (0 < left) :: acc) := rfl
          rw [List.foldl_cons, hline, ih, behind_false, List.reverse_cons, List.append_assoc]
          rfl

/-- At the start nothing is left of a context. -/
theorem coverBehind_eq (context : Nat) (marks : List Bool) :
    coverBehind context marks = behind context 0 marks := by
  have hfold := foldl_passLine context 0 marks []
  rwa [List.reverse_nil, List.nil_append] at hfold

/-- A pass has an answer for each line. -/
@[simp] theorem length_behind (context left : Nat) (marks : List Bool) :
    (behind context left marks).length = marks.length := by
  induction marks generalizing left with
  | nil => rfl
  | cons mark marks ih => cases mark <;> simp [behind, ih]

/-- A marked line at most `context` lines before line `i`. -/
def Preceded (context : Nat) (marks : List Bool) (i : Nat) : Prop :=
  ∃ j, j ≤ i ∧ i ≤ j + context ∧ marks[j]? = some true

/-- The first line is covered only by its own mark. -/
theorem preceded_zero_iff {context : Nat} {mark : Bool} {marks : List Bool} :
    Preceded context (mark :: marks) 0 ↔ mark = true := by
  constructor
  · rintro ⟨j, hj, -, hmark⟩
    obtain rfl : j = 0 := by omega
    exact Option.some.inj hmark
  · rintro rfl
    exact ⟨0, by omega, by omega, rfl⟩

/-- A later line is covered by the first mark if that is near enough, or by another. -/
theorem preceded_succ_iff {context : Nat} {mark : Bool} {marks : List Bool} {i : Nat} :
    Preceded context (mark :: marks) (i + 1) ↔
      (mark = true ∧ i < context) ∨ Preceded context marks i := by
  constructor
  · rintro ⟨j, hj, hi, hmark⟩
    cases j with
    | zero => exact .inl ⟨Option.some.inj hmark, by omega⟩
    | succ j => exact .inr ⟨j, by omega, by omega, hmark⟩
  · rintro (⟨rfl, hi⟩ | ⟨j, hj, hi, hmark⟩)
    · exact ⟨0, by omega, by omega, rfl⟩
    · exact ⟨j + 1, by omega, by omega, hmark⟩

/-- One pass keeps the lines at most `context` lines behind a marked one. -/
theorem getElem?_behind_iff {context left : Nat} (hleft : left ≤ context) (marks : List Bool)
    (i : Nat) :
    (behind context left marks)[i]? = some true ↔
      i < marks.length ∧ (i < left ∨ Preceded context marks i) := by
  induction marks generalizing left i with
  | nil => simp [behind]
  | cons mark marks ih =>
      cases i with
      | zero =>
          rw [preceded_zero_iff]
          cases mark <;> simp [behind]
      | succ i =>
          rw [preceded_succ_iff, List.length_cons]
          by_cases hpreceded : Preceded context marks i
          · cases mark with
            | true =>
                rw [behind_true, List.getElem?_cons_succ, ih (Nat.le_refl context)]
                simp [hpreceded]
            | false =>
                rw [behind_false, List.getElem?_cons_succ, ih (by omega)]
                simp [hpreceded]
          · cases mark with
            | true =>
                rw [behind_true, List.getElem?_cons_succ, ih (Nat.le_refl context)]
                simp only [hpreceded, or_false, true_and]
                omega
            | false =>
                rw [behind_false, List.getElem?_cons_succ, ih (by omega)]
                simp only [hpreceded, or_false, Bool.false_eq_true, false_and]
                omega

/-! ### Both passes -/

/-- Two lines are at most `context` lines apart. -/
def Near (context i j : Nat) : Prop := i ≤ j + context ∧ j ≤ i + context

/-- The cover has an answer for each line. -/
@[simp] theorem length_cover (context : Nat) (marks : List Bool) :
    (cover context marks).length = marks.length := by
  simp [cover, coverBehind_eq]

/-- The pass from the right sees the marks in reverse. -/
theorem getElem?_reverse_behind_iff {context : Nat} {marks : List Bool} {i : Nat}
    (hi : i < marks.length) :
    (behind context 0 marks.reverse).reverse[i]? = some true ↔
      ∃ j, i ≤ j ∧ j ≤ i + context ∧ marks[j]? = some true := by
  have hback : i < (behind context 0 marks.reverse).length := by simpa using hi
  rw [List.getElem?_reverse hback, getElem?_behind_iff (Nat.zero_le context), length_behind,
    List.length_reverse]
  constructor
  · rintro ⟨-, hzero | ⟨j, hj, hnear, hmark⟩⟩
    · omega
    · have hlength : j < marks.reverse.length := (List.getElem?_eq_some_iff.mp hmark).1
      rw [List.length_reverse] at hlength
      rw [List.getElem?_reverse hlength] at hmark
      exact ⟨marks.length - 1 - j, by omega, by omega, hmark⟩
  · rintro ⟨j, hj, hnear, hmark⟩
    have hlength : j < marks.length := (List.getElem?_eq_some_iff.mp hmark).1
    refine ⟨by omega, .inr ⟨marks.length - 1 - j, by omega, by omega, ?_⟩⟩
    rw [List.getElem?_reverse (by omega)]
    rw [show marks.length - 1 - (marks.length - 1 - j) = j by omega]
    exact hmark

/-- **A line is kept exactly if a marked one is near.** -/
theorem getElem?_cover_iff {context : Nat} {marks : List Bool} {i : Nat} (hi : i < marks.length) :
    (cover context marks)[i]? = some true ↔ ∃ j, marks[j]? = some true ∧ Near context i j := by
  have hleft : i < (behind context 0 marks).length := by simpa using hi
  have hright : i < (behind context 0 marks.reverse).reverse.length := by simpa using hi
  have hbefore := getElem?_behind_iff (Nat.zero_le context) marks i
  have hafter : _ ↔ ∃ j, i ≤ j ∧ j ≤ i + context ∧ marks[j]? = some true :=
    getElem?_reverse_behind_iff hi
  rw [List.getElem?_eq_getElem hleft] at hbefore
  rw [List.getElem?_eq_getElem hright] at hafter
  rw [cover, coverBehind_eq, coverBehind_eq, List.getElem?_zipWith, List.getElem?_eq_getElem hleft,
    List.getElem?_eq_getElem hright]
  simp only [Option.some.injEq, Bool.or_eq_true] at hbefore hafter ⊢
  rw [hbefore, hafter]
  constructor
  · rintro (⟨-, hzero | ⟨j, hj, hnear, hmark⟩⟩ | ⟨j, hj, hnear, hmark⟩)
    · omega
    · exact ⟨j, hmark, by omega, by omega⟩
    · exact ⟨j, hmark, by omega, by omega⟩
  · rintro ⟨j, hmark, hnear⟩
    obtain ⟨hij, hji⟩ := hnear
    by_cases hle : j ≤ i
    · exact .inl ⟨hi, .inr ⟨j, hle, hij, hmark⟩⟩
    · exact .inr ⟨j, by omega, hji, hmark⟩

/-! ### Selections that keep every line -/

/-- The chosen ones of a list of lines, joined. -/
def chosen (ls : List (List Char)) (kept : List Bool) : List Char :=
  ((ls.zip kept).filter (·.2)).flatMap (·.1)

/-- A selection chooses the lines that the matches cover. -/
theorem grep_eq_chosen (isMatch : List Char → Bool) (context : Nat) (text : List Char) :
    grep isMatch context text =
      chosen (lines text) (cover context ((lines text).map fun line => isMatch (lineBody line))) :=
  rfl

/-- Chosen lines are lines of the text. -/
theorem chosen_sublist (ls : List (List Char)) (kept : List Bool) :
    (chosen ls kept).Sublist ls.flatten := by
  induction ls generalizing kept with
  | nil => exact List.Sublist.refl _
  | cons line ls ih =>
      cases kept with
      | nil => exact List.nil_sublist _
      | cons keep kept =>
          cases keep with
          | true => exact (List.Sublist.refl line).append (ih kept)
          | false => exact (ih kept).trans (List.sublist_append_right line ls.flatten)

/-- The joined lines are unchanged exactly if all are chosen, since no line is empty. -/
theorem chosen_eq_flatten_iff {ls : List (List Char)} (hne : ∀ line ∈ ls, line ≠ [])
    {kept : List Bool} (hlength : kept.length = ls.length) :
    chosen ls kept = ls.flatten ↔ ∀ keep ∈ kept, keep = true := by
  induction ls generalizing kept with
  | nil =>
      rw [List.eq_nil_of_length_eq_zero hlength]
      simp [chosen]
  | cons line ls ih =>
      obtain ⟨keep, kept, rfl⟩ := List.exists_cons_of_length_eq_add_one hlength
      have ih := ih (fun line hline => hne line (List.mem_cons_of_mem _ hline))
        (Nat.succ.inj hlength)
      cases keep with
      | true =>
          have hchosen : chosen (line :: ls) (true :: kept) = line ++ chosen ls kept := rfl
          rw [hchosen, List.flatten_cons, List.append_cancel_left_eq, ih]
          simp
      | false =>
          have hchosen : chosen (line :: ls) (false :: kept) = chosen ls kept := rfl
          have hle := (chosen_sublist ls kept).length_le
          have hline := List.length_pos_iff.mpr (hne line List.mem_cons_self)
          constructor
          · intro heq
            rw [hchosen] at heq
            have hlength := congrArg List.length heq
            rw [List.flatten_cons, List.length_append] at hlength
            omega
          · intro hall
            cases hall false List.mem_cons_self

/-- So a selection adds nothing. -/
theorem grep_sublist (isMatch : List Char → Bool) (context : Nat) (text : List Char) :
    (grep isMatch context text).Sublist text := by
  have hsublist := chosen_sublist (lines text)
    (cover context ((lines text).map fun line => isMatch (lineBody line)))
  rwa [Text.flatten_lines] at hsublist

/-- **A selection keeps all of a text exactly if each of its lines has a matching line near.** -/
theorem grep_eq_self_iff (isMatch : List Char → Bool) (context : Nat) (text : List Char) :
    grep isMatch context text = text ↔
      ∀ i, i < lineCount text →
        ∃ j line, (lines text)[j]? = some line ∧ isMatch (lineBody line) = true ∧
          Near context i j := by
  let marks := (lines text).map fun line => isMatch (lineBody line)
  have hlength : marks.length = lineCount text := by simp [marks, lineCount]
  have hmarks (j : Nat) :
      marks[j]? = some true ↔
        ∃ line, (lines text)[j]? = some line ∧ isMatch (lineBody line) = true := by
    rw [List.getElem?_map, Option.map_eq_some_iff]
  have hcover : (cover context marks).length = (lines text).length := by
    rw [length_cover, hlength, lineCount]
  have hall := chosen_eq_flatten_iff (fun line hline => ne_nil_of_mem_lines hline) hcover
  rw [Text.flatten_lines, ← grep_eq_chosen] at hall
  rw [hall]
  constructor
  · intro hkept i hi
    rw [← hlength] at hi
    have hi' : i < (cover context marks).length := by rwa [length_cover]
    have hmark := List.getElem?_eq_some_iff.mpr ⟨hi', hkept _ (List.getElem_mem hi')⟩
    obtain ⟨j, hj, hnear⟩ := (getElem?_cover_iff hi).mp hmark
    obtain ⟨line, hline, hmatch⟩ := (hmarks j).mp hj
    exact ⟨j, line, hline, hmatch, hnear⟩
  · intro hnear keep hkeep
    obtain ⟨i, hi, rfl⟩ := List.mem_iff_getElem.mp hkeep
    have hbound : i < marks.length := by rwa [length_cover] at hi
    obtain ⟨j, line, hline, hmatch, hij⟩ := hnear i (by rwa [← hlength])
    have hmark := (getElem?_cover_iff hbound).mpr ⟨j, (hmarks j).mpr ⟨line, hline, hmatch⟩, hij⟩
    exact (List.getElem?_eq_some_iff.mp hmark).2

end Turnstile.Filter
