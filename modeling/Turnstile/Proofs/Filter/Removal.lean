import Mathlib.Logic.Function.Iterate
import Turnstile.Filter.Pipeline
import Turnstile.Proofs.Regex.Reporting

/-!
# The removal reaches a fixpoint

Taking matches out of a text joins what stood around them, and that can be a new match, so no fixed
number of passes is enough. And a pass may report matches without end, all of them empty, so the
absence of a match is no condition to wait for. The removal compares lengths instead: each pass but
the last takes a character away, which bounds their number (`exists_passes`), and a pass that takes
no character away leaves the text as it is (`pass_removeAll`).

**Theorem** (`removeAll_fixpoint`): for every expression and every text. Of an expression only
`Regex.Deletes` is used: a pass deletes the matches that it reports and nothing else
(`removeAll_stops`). A filter over another engine has this if its passes do
(`OutputFilter.Deletes`).
-/

namespace Turnstile

/-- The matches that one pass over a text reports, in order. -/
def Matcher.reported (m : Matcher) (text : List Char) : List Regex.Span :=
  m.program.reported text

/-- A compiled expression deletes what it reports. -/
theorem Matcher.deletes (m : Matcher) : Regex.Deletes m.deleteMatches m.reported :=
  m.program.deletes

namespace Filter

variable {pass : List Char → List Char} {text : List Char}

/-- A pass that deletes something is followed by another. -/
theorem removeAll_of_lt (h : (pass text).length < text.length) :
    removeAll pass text = removeAll pass (pass text) := by
  rw [removeAll, if_pos h]

/-- A pass that takes nothing away is the last. -/
theorem removeAll_of_not_lt (h : ¬ (pass text).length < text.length) :
    removeAll pass text = text := by
  rw [removeAll, if_neg h]

/-- The removal is a number of passes. Each takes a character away, so there are no more of them
than characters that are missing in the end. -/
theorem exists_passes (pass : List Char → List Char) (text : List Char) :
    ∃ passes, removeAll pass text = pass^[passes] text ∧
      passes + (removeAll pass text).length ≤ text.length ∧
      ∀ k < passes, (pass^[k + 1] text).length < (pass^[k] text).length := by
  fun_induction removeAll pass text with
  | case1 text next hlt ih =>
      obtain ⟨passes, hresult, hbound, hshorter⟩ := ih
      refine ⟨passes + 1, hresult, by omega, ?_⟩
      intro k hk
      rcases k with _ | k
      · exact hlt
      · exact hshorter k (Nat.lt_of_succ_lt_succ hk)
  | case2 text next hge =>
      refine ⟨0, rfl, by omega, ?_⟩
      intro k hk
      exact absurd hk (Nat.not_lt_zero k)

/-! ### Passes that delete what they report -/

section Deletes

variable {reported : List Char → List Regex.Span}

/-- The removal adds nothing. -/
theorem removeAll_sublist (h : Regex.Deletes pass reported) (text : List Char) :
    (removeAll pass text).Sublist text := by
  fun_induction removeAll pass text with
  | case1 text next hlt ih => exact ih.trans (h.sublist text)
  | case2 text next hge => exact List.Sublist.refl text

/-- One more pass over what is left changes nothing. -/
theorem pass_removeAll (h : Regex.Deletes pass reported) (text : List Char) :
    pass (removeAll pass text) = removeAll pass text := by
  fun_induction removeAll pass text with
  | case1 text next hlt ih => exact ih
  | case2 text next hge =>
      apply (h.sublist text).eq_of_length_le
      exact Nat.le_of_not_lt hge

/-- The removal leaves a text alone exactly if one pass does. -/
theorem removeAll_eq_self_iff (h : Regex.Deletes pass reported) (text : List Char) :
    removeAll pass text = text ↔ pass text = text := by
  refine ⟨fun hself => ?_, fun hself => removeAll_of_not_lt (hself.symm ▸ Nat.lt_irrefl _)⟩
  refine (h.sublist text).eq_of_length_le (Nat.le_of_not_lt fun hlt => ?_)
  have hle := (removeAll_sublist h (pass text)).length_le
  rw [← removeAll_of_lt hlt, hself] at hle
  omega

/-- What the removal does with any pass that deletes the matches it reports. -/
theorem removeAll_stops (h : Regex.Deletes pass reported) (text : List Char) :
    (∃ passes ≤ text.length, removeAll pass text = pass^[passes] text ∧
        ∀ k < passes, (pass^[k + 1] text).length < (pass^[k] text).length) ∧
      (removeAll pass text).Sublist text ∧
      pass (removeAll pass text) = removeAll pass text ∧
      (∀ s ∈ reported (removeAll pass text), s.start = s.stop) ∧
      (removeAll pass text = text ↔ ∀ s ∈ reported text, s.start = s.stop) := by
  have hfixed := pass_removeAll h text
  refine ⟨?_, removeAll_sublist h text, hfixed, ?_, ?_⟩
  · obtain ⟨passes, hresult, hbound, hshorter⟩ := exists_passes pass text
    exact ⟨passes, by omega, hresult, hshorter⟩
  · exact (h.eq_self_iff _).mp hfixed
  · rw [removeAll_eq_self_iff h]
    exact h.eq_self_iff text

end Deletes

/-- **The removal stops at a text in which every match is empty**, after at most as many passes as
the text has characters; and a text like that is left alone. -/
theorem removeAll_fixpoint (m : Matcher) (text : List Char) :
    Regex.Deletes m.deleteMatches m.reported ∧
      (∃ passes ≤ text.length, removeAll m.deleteMatches text = m.deleteMatches^[passes] text ∧
        ∀ k < passes,
          (m.deleteMatches^[k + 1] text).length < (m.deleteMatches^[k] text).length) ∧
      (removeAll m.deleteMatches text).Sublist text ∧
      m.deleteMatches (removeAll m.deleteMatches text) = removeAll m.deleteMatches text ∧
      (∀ s ∈ m.reported (removeAll m.deleteMatches text), s.start = s.stop) ∧
      (removeAll m.deleteMatches text = text ↔ ∀ s ∈ m.reported text, s.start = s.stop) :=
  ⟨m.deletes, removeAll_stops m.deletes text⟩

/-- Each pass makes the match of the next one. -/
example : (Matcher.ofSource? "ab").map (fun m => removeAll m.deleteMatches "aaabbbX".toList) =
    some "X".toList := by cbv

/-- An expression that matches the empty text has matches in every text. -/
example : (Matcher.ofSource? "x*").map (fun m =>
    (m.reported "ab".toList, removeAll m.deleteMatches "ab".toList)) =
      some ([⟨0, 0⟩, ⟨1, 1⟩, ⟨2, 2⟩], "ab".toList) := by
  cbv

end Filter

/-! ### The removal of a filter -/

namespace OutputFilter

variable {ε : Type} [Filter.Engine ε]

/-- The passes of a filter delete the matches that they report. -/
def Deletes (f : OutputFilter ε) : Prop :=
  ∀ e, f.remove = some e → ∃ reported, Regex.Deletes (Filter.Engine.deleteMatches e) reported

/-- A filter of matchers does. -/
theorem deletes (f : OutputFilter) : f.Deletes := fun m _ => ⟨m.reported, m.deletes⟩

variable {f : OutputFilter ε}

/-- The stage of the removal adds nothing. -/
theorem Deletes.removed_sublist (h : f.Deletes) (text : List Char) :
    (Filter.removed f text).Sublist text := by
  unfold Filter.removed
  cases hremove : f.remove with
  | none => exact List.Sublist.refl text
  | some e =>
      obtain ⟨reported, hreported⟩ := h e hremove
      exact Filter.removeAll_sublist hreported text

/-- The removal leaves a text alone exactly if a pass of its expression does. -/
theorem Deletes.removed_eq_self_iff (h : f.Deletes) (text : List Char) :
    Filter.removed f text = text ↔
      ∀ e, f.remove = some e → Filter.Engine.deleteMatches e text = text := by
  unfold Filter.removed
  cases hremove : f.remove with
  | none => simp
  | some e =>
      obtain ⟨reported, hreported⟩ := h e hremove
      have hpass := Filter.removeAll_eq_self_iff hreported text
      simpa using hpass

end OutputFilter

end Turnstile
