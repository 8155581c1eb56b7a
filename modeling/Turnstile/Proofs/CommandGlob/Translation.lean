import Turnstile.CommandGlob

/-!
# The wildcard pattern of a glob

What a glob is translated to, and what the pattern reader makes of it. A glob is read as a list of
`Part`s (`parts`), runs of stars are squeezed to one (`squeeze`), and each part has a spelling and
a token.

* `translateLoop_eq`: the translation writes the spellings of the squeezed parts.
* `tokens?_spell`: reading the spellings gives the tokens of the parts.
* `parse?_translate`: so **every translated glob is a wildcard pattern**.

The star is the delicate part. Two adjacent stars would be refused, or read as a double star, so
both lemmas carry a flag that says whether a star stands just before.
-/

namespace Turnstile.CommandGlob

open Wildcard

/-! ### The parts of a glob -/

/-- A part of a glob. -/
inductive Part where
  /-- Any run of characters. -/
  | run
  | any
  /-- A character that stands for itself. -/
  | literal (c : Char)
  deriving DecidableEq, Repr

/-- The parts of a glob, from the left. -/
def parts : List Char → List Part
  | [] => []
  | '*' :: rest => .run :: parts rest
  | '?' :: rest => .any :: parts rest
  | ['\\'] => [.literal '\\']
  | '\\' :: c :: rest => .literal c :: parts rest
  | c :: rest => .literal c :: parts rest

/-- A character without meaning of its own. -/
theorem parts_plain {c : Char} (hstar : c ≠ '*') (hany : c ≠ '?') (hescape : c ≠ '\\')
    (rest : List Char) : parts (c :: rest) = .literal c :: parts rest := by
  rw [parts]
  · exact hstar
  · exact hany
  · exact fun h _ => hescape h
  · exact fun _ _ h _ => hescape h

/-- Makes one run of runs in a row. The flag says that a run stands just before. -/
def squeeze : Bool → List Part → List Part
  | _, [] => []
  | afterRun, .run :: rest => if afterRun then squeeze true rest else .run :: squeeze true rest
  | _, p :: rest => p :: squeeze false rest

/-- How a part is written in a wildcard pattern. -/
def Part.spelling : Part → List Char
  | .run => ['*']
  | .any => ['?']
  | .literal c => escapeChar c

/-- What the reader of wildcard patterns makes of a part. -/
def Part.token : Part → WildcardToken
  | .run => .anyRun
  | .any => .anyChar
  | .literal c =>
    if c = '?' || c = '*' || c = '[' || c = ']' then .within [.single c] else .char c

/-- The wildcard pattern that squeezed parts spell. -/
def spell (afterRun : Bool) (ps : List Part) : List Char :=
  (squeeze afterRun ps).flatMap Part.spelling

/-- No parts have no spelling. -/
@[simp] theorem spell_nil (afterRun : Bool) : spell afterRun [] = [] := rfl

/-- A run behind a run is left out. -/
@[simp] theorem spell_run_run (ps : List Part) : spell true (.run :: ps) = spell true ps := rfl

/-- A run is spelt as a star. -/
@[simp] theorem spell_run (ps : List Part) :
    spell false (.run :: ps) = '*' :: spell true ps := rfl

/-- Any character is spelt as a question mark. -/
@[simp] theorem spell_any (afterRun : Bool) (ps : List Part) :
    spell afterRun (.any :: ps) = '?' :: spell false ps := rfl

/-- A character is spelt with its escape, if it needs one. -/
@[simp] theorem spell_literal (afterRun : Bool) (c : Char) (ps : List Part) :
    spell afterRun (.literal c :: ps) = escapeChar c ++ spell false ps := rfl

/-! ### Spellings and stars -/

/-- The spelling of a literal begins and ends with a character that is no star. -/
theorem escapeChar_spec (c : Char) :
    (c = '?' ∨ c = '*' ∨ c = '[' ∨ c = ']') ∧ escapeChar c = ['[', c, ']'] ∨
      (c ≠ '?' ∧ c ≠ '*' ∧ c ≠ '[' ∧ c ≠ ']') ∧ escapeChar c = [c] := by
  by_cases h : c = '?' ∨ c = '*' ∨ c = '[' ∨ c = ']'
  · exact .inl ⟨h, by simp [escapeChar, or_assoc, h]⟩
  · refine .inr ⟨by simpa only [not_or] using h, ?_⟩
    simp only [escapeChar, Bool.or_eq_true, decide_eq_true_eq, or_assoc, if_neg h]

/-- Literal characters that were just written do not look like a star. -/
theorem head?_escape_ne_star {literal : List Char} (h : literal ≠ []) (out : List Char) :
    ((escape literal.reverse).reverse ++ out).head? ≠ some '*' := by
  obtain ⟨c, literal, rfl⟩ := List.exists_cons_of_ne_nil h
  rw [List.reverse_cons, escape, List.flatMap_append, List.reverse_append]
  rcases escapeChar_spec c with ⟨-, heq⟩ | ⟨hc, heq⟩
  · simp [heq]
  · simp [heq, hc.2.1]

/-- After a star that was written, the next character is none. -/
theorem head?_spell_ne_star (ps : List Part) : (spell true ps).head? ≠ some '*' := by
  induction ps with
  | nil => simp
  | cons p ps ih =>
      cases p with
      | run => simpa using ih
      | any => simp
      | literal c =>
          rcases escapeChar_spec c with ⟨-, heq⟩ | ⟨hc, heq⟩
          · simp [heq]
          · simp [heq, hc.2.1]

/-! ### The translation writes the spellings -/

/-- A star stands just before, with nothing literal pending. -/
def isAfterRun (out literal : List Char) : Bool := literal.isEmpty && out.head? = some '*'

/-- Behind a character that is not spelt yet there is no run. -/
theorem isAfterRun_cons (out : List Char) (c : Char) (literal : List Char) :
    isAfterRun out (c :: literal) = false := rfl

/-- Behind a question mark there is no run. -/
theorem isAfterRun_any (out : List Char) : isAfterRun ('?' :: out) [] = false := rfl

/-- Texts are escaped one after the other. -/
theorem escape_append (as bs : List Char) : escape (as ++ bs) = escape as ++ escape bs :=
  List.flatMap_append

/-- A literal character is pending instead of being ahead. -/
theorem translate_literal (out literal : List Char) (c : Char) (ps : List Part) :
    out.reverse ++ escape (c :: literal).reverse ++ spell (isAfterRun out (c :: literal)) ps =
      out.reverse ++ escape literal.reverse ++
        spell (isAfterRun out literal) (.literal c :: ps) := by
  rw [isAfterRun_cons, spell_literal, List.reverse_cons, escape_append]
  simp [escape]

/-- A star is written unless one stands just before. -/
theorem translate_star (out literal rest : List Char) :
    let flushed := (escape literal.reverse).reverse ++ out
    let starred := if flushed.head? = some '*' then flushed else '*' :: flushed
    starred.reverse ++ escape [].reverse ++ spell (isAfterRun starred []) (parts rest) =
      out.reverse ++ escape literal.reverse ++
        spell (isAfterRun out literal) (parts ('*' :: rest)) := by
  intro flushed starred
  have hafter : isAfterRun starred [] = true := by
    by_cases h : flushed.head? = some '*' <;> simp [starred, isAfterRun, h]
  rw [hafter, parts]
  by_cases h : flushed.head? = some '*'
  · -- then nothing literal was pending, and the star is the last character of `out`
    have hliteral : literal = [] := by
      cases literal with
      | nil => rfl
      | cons c literal => exact absurd h (head?_escape_ne_star (List.cons_ne_nil c literal) out)
    subst hliteral
    have hout : isAfterRun out [] = true := by simpa [flushed, isAfterRun, escape] using h
    have hstarred : starred = out := (if_pos h).trans rfl
    rw [hout, spell_run_run, hstarred]
  · have hout : isAfterRun out literal = false := by
      cases literal with
      | nil => simpa [flushed, isAfterRun, escape] using h
      | cons c literal => rfl
    have hstarred : starred = '*' :: flushed := if_neg h
    rw [hout, spell_run, hstarred]
    simp [flushed, escape]

/-- The loop writes what is pending and then the parts of the rest. -/
theorem translateLoop_eq (out literal glob : List Char) :
    translateLoop out literal glob =
      out.reverse ++ escape literal.reverse ++ spell (isAfterRun out literal) (parts glob) := by
  fun_induction translateLoop out literal glob with
  | case1 out literal => simp [parts]
  | case2 out literal rest flushed ih =>
      rw [ih]
      exact translate_star out literal rest
  | case3 out literal rest ih =>
      rw [ih, isAfterRun_any, parts, spell_any]
      simp [escape]
  | case4 out literal ih =>
      rw [ih, translate_literal]
      rfl
  | case5 out literal c rest ih =>
      rw [ih, translate_literal]
      rfl
  | case6 out literal c rest hstar hany hlone hescaped ih =>
      have hescape : c ≠ '\\' := by
        rintro rfl
        cases rest with
        | nil => exact hlone rfl rfl
        | cons c' rest => exact hescaped c' rest rfl rfl
      rw [ih, translate_literal, parts_plain hstar hany hescape]

/-- The text of a translated glob. -/
theorem toList_translate (source : String) :
    (translate source).toList = spell false (parts source.toList) := by
  rw [translate, String.toList_ofList, translateLoop_eq]
  simp [escape, isAfterRun]

/-! ### The spellings are read back -/

/-- A bracket around one character is a class of this character. -/
theorem class?_single {c : Char} (hc : c ≠ '!') (rest : List Char) :
    class? (c :: ']' :: rest) = some (.within [.single c], rest) := by
  unfold class?
  split
  · next heq => exact absurd (List.cons.inj heq).1 hc
  · simp [classMembers]

/-- A star that no other follows is read as a run. -/
theorem tokens?_star {rest : List Char} (h : rest.head? ≠ some '*') (fuel : Nat)
    (before : Option Char) (acc : List WildcardToken) :
    tokens? (fuel + 1) before acc ('*' :: rest) =
      tokens? fuel (some '*') (.anyRun :: acc) rest := by
  have hstars : rest.takeWhile (· = '*') = [] := by
    cases rest with
    | nil => rfl
    | cons c rest =>
        have hc : c ≠ '*' := fun heq => h (by rw [heq, List.head?_cons])
        simp [hc]
  conv => lhs; unfold tokens?
  simp [hstars]

/-- The spelling of a literal is read as its token, whatever stands before. -/
theorem tokens?_escapeChar (fuel : Nat) (before : Option Char) (acc : List WildcardToken)
    (c : Char) (rest : List Char) :
    ∃ last, tokens? (fuel + 1) before acc (escapeChar c ++ rest) =
      tokens? fuel last ((Part.literal c).token :: acc) rest := by
  rcases escapeChar_spec c with ⟨hc, heq⟩ | ⟨⟨hany, hstar, hopen, hclose⟩, heq⟩
  · have hbang : c ≠ '!' := by
      rintro rfl
      revert hc
      decide
    refine ⟨some ']', ?_⟩
    rw [heq]
    simp only [List.cons_append, List.nil_append, tokens?, class?_single hbang]
    simp [Part.token, or_assoc, hc]
  · refine ⟨some c, ?_⟩
    rw [heq, List.singleton_append, tokens?]
    · simp [Part.token, hany, hstar, hopen, hclose]
    · exact hany
    · exact hstar
    · exact hopen

/-- Reading the spelling of squeezed parts gives their tokens. -/
theorem tokens?_spell (ps : List Part) (afterRun : Bool) {fuel : Nat} (before : Option Char)
    (acc : List WildcardToken) (hfuel : (spell afterRun ps).length < fuel) :
    tokens? fuel before acc (spell afterRun ps) =
      some (acc.reverse ++ (squeeze afterRun ps).map Part.token) := by
  induction ps generalizing afterRun fuel before acc with
  | nil =>
      obtain ⟨fuel, rfl⟩ : ∃ n, fuel = n + 1 := ⟨fuel - 1, by simp at hfuel; omega⟩
      simp [tokens?, squeeze]
  | cons p ps ih =>
      obtain ⟨fuel, rfl⟩ : ∃ n, fuel = n + 1 := ⟨fuel - 1, by omega⟩
      cases p with
      | run =>
          cases afterRun with
          | true =>
              rw [spell_run_run] at hfuel ⊢
              exact ih true before acc hfuel
          | false =>
              rw [spell_run, List.length_cons] at hfuel
              rw [spell_run, tokens?_star (head?_spell_ne_star ps), ih true _ _ (by omega)]
              simp [squeeze, Part.token]
      | any =>
          rw [spell_any, List.length_cons] at hfuel
          rw [spell_any, tokens?, ih false _ _ (by omega)]
          simp [squeeze, Part.token]
      | literal c =>
          have hlength : 0 < (escapeChar c).length := by
            rcases escapeChar_spec c with ⟨-, heq⟩ | ⟨-, heq⟩ <;> simp [heq]
          rw [spell_literal, List.length_append] at hfuel
          obtain ⟨last, hread⟩ := tokens?_escapeChar fuel before acc c (spell false ps)
          rw [spell_literal, hread, ih false _ _ (by omega)]
          simp [squeeze]

/-- **Every translated glob is a wildcard pattern**, whose tokens are those of the squeezed
parts. -/
theorem parse?_translate (source : String) :
    Wildcard.parse? (translate source) = some {
      text := translate source
      tokens := (squeeze false (parts source.toList)).map Part.token } := by
  unfold Wildcard.parse?
  rw [toList_translate, tokens?_spell _ _ _ _ (Nat.lt_succ_self _)]
  simp

end Turnstile.CommandGlob
