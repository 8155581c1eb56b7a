import Mathlib.Data.List.Flatten
import Turnstile.Proofs.Filter.Limits
import Turnstile.Proofs.Filter.Removal
import Turnstile.Proofs.Filter.Selection

/-!
# Filtering a filtered text

No stage adds a character, so a second pass changes nothing exactly if each of its stages changes
nothing (`apply_eq_self_iff`). What a filter leaves is within its limits (`apply_within`), whether
or not it selects lines, so the two cuts never change it again. All of this holds over any engine
whose passes delete what they report (`Deletes.apply_apply_iff`).

**Theorem** (`apply_apply_eq_iff`): filtering twice is filtering once exactly if the removal finds
nothing in the result, and each line of the result still has a matching line near it. The cuts can
break either: they can move an end of the text, which an anchored expression then matches, and they
can take the matching line away from its context.
-/

namespace Turnstile

open Text

namespace Filter

/-! ### The cut in whole lines -/

/-- The lines that fit are the first ones. -/
theorem isPrefix_fittingLines (budget : Nat) (ls : List (List Char)) :
    fittingLines budget ls <+: ls := by
  induction ls generalizing budget with
  | nil => exact List.prefix_refl []
  | cons line ls ih =>
      unfold fittingLines
      by_cases h : line.length ≤ budget
      · rw [if_pos h]
        exact (List.prefix_cons_inj line).mpr (ih _)
      · rw [if_neg h]
        exact List.nil_prefix

/-- Together they are within the budget. -/
theorem length_flatten_fittingLines_le (budget : Nat) (ls : List (List Char)) :
    (fittingLines budget ls).flatten.length ≤ budget := by
  induction ls generalizing budget with
  | nil => exact Nat.zero_le budget
  | cons line ls ih =>
      unfold fittingLines
      by_cases h : line.length ≤ budget
      · rw [if_pos h, List.flatten_cons, List.length_append]
        have hrest := ih (budget - line.length)
        omega
      · rw [if_neg h]
        exact Nat.zero_le budget

/-- The whole lines at one end of a text that fit the budget. -/
def fitting (limit : Nat) (keep : Side) (text : List Char) : List (List Char) :=
  match keep with
  | .top => fittingLines limit (lines text)
  | .bottom => (fittingLines limit (lines text).reverse).reverse

/-- The cut in whole lines falls back on a cut by characters if not even one line fits. -/
theorem cutCharsByLine_eq (limit : Nat) (keep : Side) (text : List Char) :
    cutCharsByLine limit keep text =
      if text.length ≤ limit then text
      else if (fitting limit keep text).isEmpty then cutChars limit keep text
      else (fitting limit keep text).flatten := by
  cases keep <;> rfl

/-- Lines that fit are lines of the text, at either end. -/
theorem fitting_sublist (limit : Nat) (keep : Side) (text : List Char) :
    (fitting limit keep text).Sublist (lines text) := by
  cases keep with
  | top => exact (isPrefix_fittingLines limit (lines text)).sublist
  | bottom =>
      have h := (isPrefix_fittingLines limit (lines text).reverse).sublist.reverse
      rwa [List.reverse_reverse] at h

/-- They are within the limit, at either end. -/
theorem length_flatten_fitting_le (limit : Nat) (keep : Side) (text : List Char) :
    (fitting limit keep text).flatten.length ≤ limit := by
  cases keep with
  | top => exact length_flatten_fittingLines_le limit (lines text)
  | bottom =>
      have h := length_flatten_fittingLines_le limit (lines text).reverse
      rw [List.length_flatten] at h
      rwa [fitting, List.length_flatten, List.map_reverse, List.sum_reverse]

/-- The cut in whole lines keeps its limit, also where it cuts a line. -/
theorem length_cutCharsByLine_le (limit : Nat) (keep : Side) (text : List Char) :
    (cutCharsByLine limit keep text).length ≤ limit := by
  rw [cutCharsByLine_eq]
  split
  · assumption
  · split
    · rw [length_cutChars]
      exact Nat.min_le_left limit _
    · exact length_flatten_fitting_le limit keep text

/-- The cut in whole lines adds nothing to the text. -/
theorem cutCharsByLine_sublist (limit : Nat) (keep : Side) (text : List Char) :
    (cutCharsByLine limit keep text).Sublist text := by
  rw [cutCharsByLine_eq]
  split
  · exact List.Sublist.refl text
  · split
    · exact (cutChars_piece limit keep text).sublist
    · have h := (fitting_sublist limit keep text).flatten
      rwa [Text.flatten_lines] at h

/-! ### The stages after the removal -/

section Stages

variable {ε : Type} {f : OutputFilter ε} {text : List Char}

/-- The selection adds nothing to the text. -/
theorem selected_sublist [Engine ε] (f : OutputFilter ε) (text : List Char) :
    (selected f text).Sublist text := by
  unfold selected
  cases f.grep with
  | none => exact List.Sublist.refl text
  | some e => exact grep_sublist (Engine.isMatch e) f.context text

/-- The cut by characters adds nothing, on both of its ways. -/
theorem withinChars_sublist (f : OutputFilter ε) (text : List Char) :
    (withinChars f text).Sublist text := by
  unfold withinChars
  cases f.limitChars with
  | none => exact List.Sublist.refl text
  | some limit =>
      by_cases hgrep : f.grep.isSome
      · simp only [if_pos hgrep]
        exact cutCharsByLine_sublist limit f.keep text
      · simp only [if_neg hgrep]
        exact (cutChars_piece limit f.keep text).sublist

/-- The cut by lines adds nothing. -/
theorem withinLines_sublist (f : OutputFilter ε) (text : List Char) :
    (withinLines f text).Sublist text :=
  (withinLines_longest f text).piece.sublist

/-- The cut by characters keeps its limit on both of its ways. -/
theorem length_withinChars_le {limit : Nat} (h : f.limitChars = some limit) (text : List Char) :
    (withinChars f text).length ≤ limit := by
  simp only [withinChars, h]
  by_cases hgrep : f.grep.isSome
  · rw [if_pos hgrep]
    exact length_cutCharsByLine_le limit f.keep text
  · rw [if_neg hgrep, length_cutChars]
    exact Nat.min_le_left limit _

/-- **Both limits hold together**, also for a filter that selects lines. -/
theorem apply_within [Engine ε] (f : OutputFilter ε) (text : List Char) :
    Within f (f.apply text) where
  chars _ hlimit :=
    Nat.le_trans (withinLines_sublist f _).length_le (length_withinChars_le hlimit _)
  lines limit hlimit := (withinLines_longest f _).holds limit hlimit

/-- A text within the limits is not cut by characters. -/
theorem withinChars_of_within (h : Within f text) : withinChars f text = text := by
  unfold withinChars
  cases hlimit : f.limitChars with
  | none => rfl
  | some limit =>
      have hle := h.chars limit hlimit
      simp only [cutCharsByLine_eq, cutChars, if_pos hle, ite_self]

/-- Nor is it cut by lines. -/
theorem withinLines_of_within (h : Within f text) : withinLines f text = text := by
  unfold withinLines
  cases hlimit : f.limitLines with
  | none => rfl
  | some limit => exact if_pos (h.lines limit hlimit)

end Stages

/-! ### A second pass -/

variable {ε : Type} [Engine ε] {f : OutputFilter ε}

/-- A filter leaves a text alone exactly if each of its stages does: what one stage took away, no
later one could put back. -/
theorem apply_eq_self_iff (hdeletes : f.Deletes) (text : List Char) :
    f.apply text = text ↔ removed f text = text ∧ selected f text = text ∧ Within f text := by
  constructor
  · intro h
    have hremoved := hdeletes.removed_sublist text
    have hselected := selected_sublist f (removed f text)
    have hchars := withinChars_sublist f (selected f (removed f text))
    have hlines := withinLines_sublist f (withinChars f (selected f (removed f text)))
    have hwithin : Within f text := by
      rw [← h]
      exact apply_within f text
    have hlength : text.length ≤ (selected f (removed f text)).length := by
      have hle := (hlines.trans hchars).length_le
      rwa [← OutputFilter.apply, h] at hle
    have hremoved' : removed f text = text :=
      hremoved.eq_of_length_le (Nat.le_trans hlength hselected.length_le)
    rw [hremoved'] at hselected hlength
    exact ⟨hremoved', hselected.eq_of_length_le hlength, hwithin⟩
  · rintro ⟨hremoved, hselected, hwithin⟩
    rw [OutputFilter.apply, hremoved, hselected, withinChars_of_within hwithin,
      withinLines_of_within hwithin]

/-- Each line has a matching line near it. -/
def Covered (e : ε) (context : Nat) (text : List Char) : Prop :=
  ∀ i, i < lineCount text →
    ∃ j line, (lines text)[j]? = some line ∧ Engine.isMatch e (lineBody line) = true ∧
      Near context i j

/-- A selection leaves a text alone exactly if it covers its lines. -/
theorem selected_eq_self_iff (f : OutputFilter ε) (text : List Char) :
    selected f text = text ↔ ∀ e, f.grep = some e → Covered e f.context text := by
  unfold selected
  cases hgrep : f.grep with
  | none => simp
  | some e =>
      have h := grep_eq_self_iff (Engine.isMatch e) f.context text
      simpa [Covered] using h

end Filter

namespace OutputFilter

open Turnstile.Filter

/-- Filtering twice is filtering once exactly if the two stages that read the text leave the result
alone: it is within the limits already. -/
theorem Deletes.apply_apply_iff {ε : Type} [Engine ε] {f : OutputFilter ε} (h : f.Deletes)
    (text : List Char) :
    f.apply (f.apply text) = f.apply text ↔
      (∀ e, f.remove = some e → Engine.deleteMatches e (f.apply text) = f.apply text) ∧
        ∀ e, f.grep = some e → Covered e f.context (f.apply text) := by
  rw [apply_eq_self_iff h, h.removed_eq_self_iff, selected_eq_self_iff]
  constructor
  · rintro ⟨hremoved, hselected, -⟩
    exact ⟨hremoved, hselected⟩
  · rintro ⟨hremoved, hselected⟩
    exact ⟨hremoved, hselected, apply_within f text⟩

/-- **Filtering twice is filtering once exactly if** the removal finds nothing in the result and
each line of the result has a matching line near it. -/
theorem apply_apply_eq_iff (f : OutputFilter) (text : List Char) :
    f.apply (f.apply text) = f.apply text ↔
      (∀ m, f.remove = some m → m.deleteMatches (f.apply text) = f.apply text) ∧
        ∀ m, f.grep = some m → Covered m f.context (f.apply text) :=
  f.deletes.apply_apply_iff text

/-- A cut moves the end that an anchored removal waits for, and takes a matching line away from the
line that was kept as its context. -/
theorem apply_apply_ne_after_cut :
    let anchored : OutputFilter := { limitChars := some 2, remove := Matcher.ofSource? "x$" }
    let around : OutputFilter :=
      { limitLines := some 1, grep := Matcher.ofSource? "X", context := 1 }
    (anchored.remove.isSome ∧ anchored.apply "axb".toList = "ax".toList ∧
      anchored.apply (anchored.apply "axb".toList) = "a".toList) ∧
    around.grep.isSome ∧ around.apply "c\nX\n".toList = "c\n".toList ∧
      around.apply (around.apply "c\nX\n".toList) = [] := by
  refine ⟨⟨by decide, by decide +kernel, by decide +kernel⟩, by decide, by decide, by decide⟩

end OutputFilter

end Turnstile
