import Turnstile.Filter.Pipeline
import Turnstile.Proofs.Text.Splitting

/-!
# The limits of a filter that selects no lines

A cut keeps a piece at one end of a text (`Side.Piece`). Each cut keeps the longest piece within
its limit (`cutChars_longest`, `cutLines_longest`), and since a piece of a text within a limit is
itself within it, one cut after the other keeps the longest piece within both (`Longest.comp`).
The longest piece is unique, so the two cuts may as well change places.

**Theorem** (`apply_longest`): without a selection of lines, a filter leaves the longest piece of
what the removal left that is within both limits.
-/

namespace Turnstile

open Text

/-! ### Pieces at one end of a text -/

namespace Side

/-- A beginning or an end of a text. -/
def Piece (keep : Side) (p text : List Char) : Prop :=
  match keep with
  | .top => p <+: text
  | .bottom => p <:+ text

variable {keep : Side} {p q text : List Char}

/-- The whole text is a piece at either end. -/
theorem Piece.refl (keep : Side) (text : List Char) : keep.Piece text text := by
  cases keep with
  | top => exact List.prefix_refl text
  | bottom => exact List.suffix_refl text

/-- A piece of a piece is a piece. -/
theorem Piece.trans (hp : keep.Piece p q) (hq : keep.Piece q text) : keep.Piece p text := by
  cases keep with
  | top => exact List.IsPrefix.trans hp hq
  | bottom => exact List.IsSuffix.trans hp hq

/-- A piece is no longer than the text. -/
theorem Piece.length_le (h : keep.Piece p text) : p.length ≤ text.length := by
  cases keep with
  | top => exact List.IsPrefix.length_le h
  | bottom => exact List.IsSuffix.length_le h

/-- A piece adds nothing. -/
theorem Piece.sublist (h : keep.Piece p text) : p.Sublist text := by
  cases keep with
  | top => exact List.IsPrefix.sublist h
  | bottom => exact List.IsSuffix.sublist h

/-- Of two pieces of one text the shorter is a piece of the longer. -/
theorem Piece.of_length_le (hp : keep.Piece p text) (hq : keep.Piece q text)
    (hle : p.length ≤ q.length) : keep.Piece p q := by
  cases keep with
  | top => exact List.prefix_of_prefix_length_le hp hq hle
  | bottom => exact List.suffix_of_suffix_length_le hp hq hle

/-- A piece that is as long as the text is the text. -/
theorem Piece.eq_of_length (h : keep.Piece p text) (hlength : p.length = text.length) :
    p = text := by
  cases keep with
  | top => exact List.IsPrefix.eq_of_length h hlength
  | bottom => exact List.IsSuffix.eq_of_length h hlength

/-- A piece has no more lines than the text. -/
theorem Piece.lineCount_le (h : keep.Piece p text) : lineCount p ≤ lineCount text := by
  cases keep with
  | top =>
      obtain ⟨rest, rfl⟩ := h
      exact lineCount_le_append_right p rest
  | bottom =>
      obtain ⟨before, rfl⟩ := h
      exact lineCount_le_append_left before p

end Side

namespace Filter

/-! ### The longest piece -/

/-- A piece of a text that satisfies a condition, with no longer one. -/
structure Longest (keep : Side) (P : List Char → Prop) (kept text : List Char) : Prop where
  piece : keep.Piece kept text
  holds : P kept
  length_le : ∀ p, keep.Piece p text → P p → p.length ≤ kept.length

variable {keep : Side} {P Q : List Char → Prop} {kept text : List Char}

/-- There is one longest piece. -/
theorem Longest.unique {other : List Char} (h : Longest keep P kept text)
    (h' : Longest keep P other text) : kept = other := by
  have hle := h'.length_le kept h.piece h.holds
  have hge := h.length_le other h'.piece h'.holds
  exact (h.piece.of_length_le h'.piece hle).eq_of_length (Nat.le_antisymm hle hge)

/-- One cut after the other keeps the longest piece that satisfies both conditions, if the first
condition passes to pieces. -/
theorem Longest.comp {middle : List Char} (hP : ∀ p q, keep.Piece p q → P q → P p)
    (hfirst : Longest keep P middle text) (hsecond : Longest keep Q kept middle) :
    Longest keep (fun p => P p ∧ Q p) kept text where
  piece := hsecond.piece.trans hfirst.piece
  holds := ⟨hP kept middle hsecond.piece hfirst.holds, hsecond.holds⟩
  length_le p hp := fun ⟨hp₁, hp₂⟩ =>
    have hmiddle := hp.of_length_le hfirst.piece (hfirst.length_le p hp hp₁)
    hsecond.length_le p hmiddle hp₂

/-- A text that satisfies the condition is its own longest piece. -/
theorem Longest.self (h : P text) : Longest keep P text text where
  piece := Side.Piece.refl keep text
  holds := h
  length_le _ hp _ := hp.length_le

/-! ### The cut by characters -/

/-- The cut at the top keeps the first characters. -/
theorem cutChars_top (limit : Nat) (text : List Char) :
    cutChars limit .top text = text.take limit := by
  unfold cutChars
  by_cases h : text.length ≤ limit
  · rw [if_pos h, List.take_of_length_le h]
  · rw [if_neg h]

/-- The cut at the bottom keeps the last characters. -/
theorem cutChars_bottom (limit : Nat) (text : List Char) :
    cutChars limit .bottom text = text.drop (text.length - limit) := by
  unfold cutChars
  by_cases h : text.length ≤ limit
  · rw [if_pos h, Nat.sub_eq_zero_of_le h, List.drop_zero]
  · rw [if_neg h]

/-- The cut by characters leaves a piece. -/
theorem cutChars_piece (limit : Nat) (keep : Side) (text : List Char) :
    keep.Piece (cutChars limit keep text) text := by
  cases keep with
  | top =>
      rw [cutChars_top]
      exact List.take_prefix limit text
  | bottom =>
      rw [cutChars_bottom]
      exact List.drop_suffix _ text

/-- It leaves as many characters as the limit says, if there are so many. -/
theorem length_cutChars (limit : Nat) (keep : Side) (text : List Char) :
    (cutChars limit keep text).length = min limit text.length := by
  cases keep with
  | top => rw [cutChars_top, List.length_take]
  | bottom =>
      rw [cutChars_bottom, List.length_drop]
      omega

/-- It leaves the longest piece within its limit. -/
theorem cutChars_longest (limit : Nat) (keep : Side) (text : List Char) :
    Longest keep (fun p => p.length ≤ limit) (cutChars limit keep text) text where
  piece := cutChars_piece limit keep text
  holds := by
    rw [length_cutChars]
    exact Nat.min_le_left limit _
  length_le p hp hlimit := by
    rw [length_cutChars]
    exact Nat.le_min.mpr ⟨hlimit, hp.length_le⟩

/-! ### The cut by lines -/

/-- The cut at the top keeps the first lines. -/
theorem cutLines_top (limit : Nat) (text : List Char) :
    cutLines limit .top text = ((lines text).take limit).flatten := by
  unfold cutLines
  by_cases h : (lines text).length ≤ limit
  · simp only [if_pos h, List.take_of_length_le h, Text.flatten_lines]
  · simp only [if_neg h]

/-- The cut at the bottom keeps the last lines. -/
theorem cutLines_bottom (limit : Nat) (text : List Char) :
    cutLines limit .bottom text = ((lines text).drop (lineCount text - limit)).flatten := by
  unfold cutLines
  by_cases h : (lines text).length ≤ limit
  · have hdrop : lineCount text - limit = 0 := Nat.sub_eq_zero_of_le h
    simp only [if_pos h, hdrop, List.drop_zero, Text.flatten_lines]
  · simp only [if_neg h, lineCount]

/-- The cut by lines leaves a piece. -/
theorem cutLines_piece (limit : Nat) (keep : Side) (text : List Char) :
    keep.Piece (cutLines limit keep text) text := by
  cases keep with
  | top =>
      rw [cutLines_top]
      refine ⟨((lines text).drop limit).flatten, ?_⟩
      rw [← List.flatten_append, List.take_append_drop, Text.flatten_lines]
  | bottom =>
      rw [cutLines_bottom]
      refine ⟨((lines text).take (lineCount text - limit)).flatten, ?_⟩
      rw [← List.flatten_append, List.take_append_drop, Text.flatten_lines]

/-- The lines after the cut are those that were kept. -/
theorem lineCount_cutLines_le (limit : Nat) (keep : Side) (text : List Char) :
    lineCount (cutLines limit keep text) ≤ limit := by
  have hlines := lines_spec text
  cases keep with
  | top =>
      rw [cutLines_top, lineCount, lines_flatten (hlines.sublist (List.take_sublist _ _))]
      exact List.length_take_le limit _
  | bottom =>
      rw [cutLines_bottom, lineCount, lines_flatten (hlines.sublist (List.drop_sublist _ _)),
        List.length_drop, lineCount]
      omega

/-- With any character more there would be one line more. At the top, the lines that are kept are
terminated, and what follows them starts a line of its own. -/
theorem lt_lineCount_of_cutLines_top {limit : Nat} {text rest : List Char} (hrest : rest ≠ [])
    (h : cutLines limit .top text ++ rest <+: text) :
    limit < lineCount (cutLines limit .top text ++ rest) := by
  obtain ⟨beyond, hbeyond⟩ := h
  have hmore : limit < (lines text).length := by
    refine Nat.lt_of_not_le fun hle => hrest ?_
    rw [cutLines, if_pos hle] at hbeyond
    have hlength := congrArg List.length hbeyond
    simp only [List.length_append] at hlength
    exact List.eq_nil_of_length_eq_zero (by omega)
  have hdrop : (lines text).drop limit ≠ [] := by
    intro hnil
    have := List.drop_eq_nil_iff.mp hnil
    omega
  have hterminated : ∀ line ∈ (lines text).take limit, Terminated line := by
    refine Lines.terminated ?_ hdrop
    rw [List.take_append_drop]
    exact lines_spec text
  have hpos := lineCount_pos hrest
  rw [lineCount] at hpos
  rw [cutLines_top, lineCount, lines_flatten_append hterminated, List.length_append,
    List.length_take]
  omega

/-- What the cut at the bottom takes away stands in front of what it keeps. -/
theorem skipped_append_cutLines (limit : Nat) (text : List Char) :
    ((lines text).take (lineCount text - limit)).flatten ++ cutLines limit .bottom text = text := by
  rw [cutLines_bottom, ← List.flatten_append, List.take_append_drop, Text.flatten_lines]

/-- At the bottom, what stands in front of the lines that are kept is terminated, so it is a line
of its own. -/
theorem lt_lineCount_of_cutLines_bottom {limit : Nat} {text before : List Char}
    (hbefore : before ≠ []) (h : before ++ cutLines limit .bottom text <:+ text) :
    limit < lineCount (before ++ cutLines limit .bottom text) := by
  have hmore : limit < lineCount text := by
    refine Nat.lt_of_not_le fun hle => hbefore ?_
    have hwhole : cutLines limit .bottom text = text := if_pos hle
    have hlength := List.IsSuffix.length_le h
    rw [hwhole, List.length_append] at hlength
    exact List.eq_nil_of_length_eq_zero (by omega)
  by_cases hzero : limit = 0
  · rw [hzero]
    exact lineCount_pos fun hnil => hbefore (List.append_eq_nil_iff.mp hnil).1
  obtain ⟨front, hfront⟩ := h
  have hskipped : before <:+ ((lines text).take (lineCount text - limit)).flatten := by
    have hwhole : front ++ before ++ cutLines limit .bottom text =
        ((lines text).take (lineCount text - limit)).flatten ++ cutLines limit .bottom text := by
      rw [skipped_append_cutLines, List.append_assoc, hfront]
    exact ⟨front, List.append_cancel_right hwhole⟩
  have hterminated : ∀ line ∈ (lines text).take (lineCount text - limit), Terminated line := by
    have hsplit : Lines ((lines text).take (lineCount text - limit) ++
        (lines text).drop (lineCount text - limit)) := by
      rw [List.take_append_drop]
      exact lines_spec text
    refine Lines.terminated hsplit fun hnil => ?_
    have := List.drop_eq_nil_iff.mp hnil
    rw [lineCount] at hmore this
    omega
  have hkept : lineCount (cutLines limit .bottom text) = limit := by
    have hlines := (lines_spec text).sublist (List.drop_sublist (lineCount text - limit) _)
    rw [cutLines_bottom, lineCount, lines_flatten hlines, List.length_drop]
    rw [lineCount] at hmore ⊢
    omega
  have hlt := lineCount_lt_append hterminated hskipped hbefore (cutLines limit .bottom text)
  rwa [hkept] at hlt

/-- It leaves the longest piece within its limit. -/
theorem cutLines_longest (limit : Nat) (keep : Side) (text : List Char) :
    Longest keep (fun p => lineCount p ≤ limit) (cutLines limit keep text) text where
  piece := cutLines_piece limit keep text
  holds := lineCount_cutLines_le limit keep text
  length_le p hp hcount := by
    refine Nat.le_of_not_lt fun hlt => Nat.not_lt_of_le hcount ?_
    have hpiece := (cutLines_piece limit keep text).of_length_le hp (Nat.le_of_lt hlt)
    cases keep with
    | top =>
        obtain ⟨rest, rfl⟩ := hpiece
        refine lt_lineCount_of_cutLines_top (fun hnil => ?_) hp
        simp [hnil] at hlt
    | bottom =>
        obtain ⟨before, rfl⟩ := hpiece
        refine lt_lineCount_of_cutLines_bottom (fun hnil => ?_) hp
        simp [hnil] at hlt

/-! ### Both limits together -/

variable {ε : Type}

/-- A text is within the limits of a filter. -/
structure Within (f : OutputFilter ε) (text : List Char) : Prop where
  chars : ∀ limit, f.limitChars = some limit → text.length ≤ limit
  lines : ∀ limit, f.limitLines = some limit → lineCount text ≤ limit

/-- Without a selection, the stage leaves the longest piece within the limit, if it has one. -/
theorem withinChars_longest {f : OutputFilter ε} (h : f.grep = none) (text : List Char) :
    Longest f.keep (fun p => ∀ limit, f.limitChars = some limit → p.length ≤ limit)
      (withinChars f text) text := by
  unfold withinChars
  cases hlimit : f.limitChars with
  | none => exact .self fun limit heq => by cases heq
  | some limit =>
      simp only [h, Option.isSome_none, Bool.false_eq_true, if_false]
      simpa using cutChars_longest limit f.keep text

/-- The stage leaves the longest piece within the limit, if it has one. -/
theorem withinLines_longest (f : OutputFilter ε) (text : List Char) :
    Longest f.keep (fun p => ∀ limit, f.limitLines = some limit → lineCount p ≤ limit)
      (withinLines f text) text := by
  unfold withinLines
  cases hlimit : f.limitLines with
  | none => exact .self fun limit heq => by cases heq
  | some limit => simpa using cutLines_longest limit f.keep text

/-- Characters first and lines second: the longest piece within both limits. -/
theorem withinLines_withinChars_longest {f : OutputFilter ε} (h : f.grep = none)
    (text : List Char) :
    Longest f.keep (Within f) (withinLines f (withinChars f text)) text := by
  have hcomp := Longest.comp (fun p q hp hq limit heq => Nat.le_trans hp.length_le (hq limit heq))
    (withinChars_longest h text) (withinLines_longest f (withinChars f text))
  exact ⟨hcomp.piece, ⟨hcomp.holds.1, hcomp.holds.2⟩,
    fun p hp hwithin => hcomp.length_le p hp ⟨hwithin.chars, hwithin.lines⟩⟩

/-- Lines first and characters second: the same. -/
theorem withinChars_withinLines_longest {f : OutputFilter ε} (h : f.grep = none)
    (text : List Char) :
    Longest f.keep (Within f) (withinChars f (withinLines f text)) text := by
  have hcomp := Longest.comp
    (fun p q hp hq limit heq => Nat.le_trans hp.lineCount_le (hq limit heq))
    (withinLines_longest f text) (withinChars_longest h (withinLines f text))
  exact ⟨hcomp.piece, ⟨hcomp.holds.2, hcomp.holds.1⟩,
    fun p hp hwithin => hcomp.length_le p hp ⟨hwithin.lines, hwithin.chars⟩⟩

end Filter

namespace OutputFilter

open Turnstile.Filter

variable {ε : Type} [Engine ε]

/-- **Without a selection of lines, a filter leaves the longest piece within both limits** of what
the removal left, and the order of the two cuts does not matter. -/
theorem apply_longest (f : OutputFilter ε) (h : f.grep = none) (text : List Char) :
    Longest f.keep (Within f) (f.apply text) (removed f text) ∧
      withinChars f (withinLines f (removed f text)) = f.apply text := by
  have hselected : selected f (removed f text) = removed f text := by
    rw [selected, h]
  have hlongest : Longest f.keep (Within f) (f.apply text) (removed f text) := by
    rw [apply, hselected]
    exact withinLines_withinChars_longest h _
  exact ⟨hlongest, (withinChars_withinLines_longest h _).unique hlongest⟩

/-- At the bottom, the cut by characters begins inside a line, which then counts as a line. -/
theorem apply_longest_partial_line :
    let f : OutputFilter := { limitChars := some 4, limitLines := some 2, keep := .bottom }
    f.grep = none ∧ Longest .bottom (Within f) "ef\nß".toList "ab\ncdef\nß".toList := by
  intro f
  have happly : f.apply "ab\ncdef\nß".toList = "ef\nß".toList := by decide
  refine ⟨rfl, ?_⟩
  have hlongest := (apply_longest f rfl "ab\ncdef\nß".toList).1
  rw [happly] at hlongest
  exact hlongest

end OutputFilter

end Turnstile
