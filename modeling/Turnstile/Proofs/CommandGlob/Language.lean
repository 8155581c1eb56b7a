import Turnstile.Proofs.CommandGlob.Translation
import Turnstile.Proofs.Wildcard.Matching

/-!
# The language of a glob

`CommandGlob.Denotes` defines which commands a glob stands for, by induction on the characters of
the glob and without any translation. **Theorem** (`isMatch_iff_denotes`): a glob matches exactly
these commands, and the fallback that compares the glob's text literally is never used.

The proof composes three steps: a glob denotes what its parts stand for (`denotes_iff_stands`),
squeezing runs of stars changes nothing (`stands_squeeze_iff`), and the comparison is right on the
tokens of the squeezed parts (`Wildcard.compare_eq_hit_iff`).

A glob that matches every command is recognised by its translation, which is a single star
(`matchesEverything_iff`).
-/

namespace Turnstile.CommandGlob

open Wildcard

variable {ignoreCase : Bool}

/-! ### What a glob stands for -/

/-- Two characters count as one: they are identical or, if case does not count, differ at most in
the case of A to Z. -/
def Agree (ignoreCase : Bool) (x c : Char) : Prop :=
  x = c ∨ (ignoreCase = true ∧ x.toLower = c.toLower)

/-- The commands that a glob stands for. -/
inductive Denotes (ignoreCase : Bool) : List Char → List Char → Prop where
  | nil : Denotes ignoreCase [] []
  /-- `*` stands for any run of characters. -/
  | star (skipped : List Char) {glob text : List Char} :
      Denotes ignoreCase glob text → Denotes ignoreCase ('*' :: glob) (skipped ++ text)
  /-- `?` stands for one character. -/
  | any (c : Char) {glob text : List Char} :
      Denotes ignoreCase glob text → Denotes ignoreCase ('?' :: glob) (c :: text)
  /-- A backslash takes the next character literally. -/
  | escaped {x c : Char} {glob text : List Char} :
      Agree ignoreCase x c → Denotes ignoreCase glob text →
        Denotes ignoreCase ('\\' :: x :: glob) (c :: text)
  /-- A backslash at the end stands for itself. -/
  | backslash {c : Char} : Agree ignoreCase '\\' c → Denotes ignoreCase ['\\'] [c]
  /-- Every other character stands for itself. -/
  | plain {x c : Char} {glob text : List Char} :
      x ≠ '*' → x ≠ '?' → x ≠ '\\' → Agree ignoreCase x c → Denotes ignoreCase glob text →
        Denotes ignoreCase (x :: glob) (c :: text)

/-- Characters are compared as the language of the patterns says. -/
theorem sameChar_iff_agree {c x : Char} :
    sameChar ignoreCase c x = true ↔ Agree ignoreCase x c := by
  cases ignoreCase with
  | false =>
      simp only [sameChar, Agree, Bool.false_eq_true, if_false, beq_iff_eq, false_and, or_false]
      exact eq_comm
  | true =>
      simp only [sameChar, Agree, if_true, beq_iff_eq, true_and]
      constructor
      · exact fun h => .inr h.symm
      · rintro (rfl | h)
        · rfl
        · exact h.symm

/-! ### The parts of a glob -/

/-- A literal part admits the characters that agree with it. -/
theorem admits_literal_iff {x c : Char} :
    admits ignoreCase c (Part.literal x).token = true ↔ Agree ignoreCase x c := by
  rw [← sameChar_iff_agree, Part.token]
  split <;> simp [admits, ClassMember.holds]

/-- A character is no run, also if it is a star that was escaped. -/
theorem token_literal_ne_run (x : Char) : (Part.literal x).token ≠ .anyRun := by
  rw [Part.token]
  split <;> simp

/-- No part of a command pattern is bound to a path. -/
theorem anyPath_not_mem_tokens (ps : List Part) : .anyPath ∉ ps.map Part.token := by
  intro h
  obtain ⟨p, -, hp⟩ := List.mem_map.mp h
  cases p with
  | run => cases hp
  | any => cases hp
  | literal c =>
      rw [Part.token] at hp
      split at hp <;> cases hp

/-- A character stands for one character that agrees with it. -/
theorem stands_literal_iff {x : Char} {tokens : List WildcardToken} {text : List Char} :
    Stands ignoreCase ((Part.literal x).token :: tokens) text ↔
      ∃ c rest, text = c :: rest ∧ Agree ignoreCase x c ∧ Stands ignoreCase tokens rest := by
  simp only [stands_one_iff (token_literal_ne_run x), admits_literal_iff]

/-- A glob denotes what the tokens of its parts stand for. -/
theorem denotes_iff_stands (glob text : List Char) :
    Denotes ignoreCase glob text ↔ Stands ignoreCase ((parts glob).map Part.token) text := by
  fun_induction parts glob generalizing text with
  | case1 =>
      rw [List.map_nil, stands_nil_iff]
      constructor
      · intro h
        cases h
        rfl
      · rintro rfl
        exact .nil
  | case2 rest ih =>
      rw [List.map_cons, Part.token, stands_run_iff]
      constructor
      · intro h
        cases h with
        | star skipped h => exact ⟨_, List.suffix_append _ _, (ih _).mp h⟩
        | plain hstar => exact absurd rfl hstar
      · rintro ⟨text, ⟨skipped, rfl⟩, h⟩
        exact .star skipped ((ih _).mpr h)
  | case3 rest ih =>
      rw [List.map_cons, Part.token, stands_one_iff (by decide)]
      constructor
      · intro h
        cases h with
        | any c h => exact ⟨c, _, rfl, rfl, (ih _).mp h⟩
        | plain _ hany => exact absurd rfl hany
      · rintro ⟨c, text, rfl, -, h⟩
        exact .any c ((ih _).mpr h)
  | case4 =>
      rw [List.map_cons, stands_literal_iff, List.map_nil]
      simp only [stands_nil_iff]
      constructor
      · intro h
        cases h with
        | backslash h => exact ⟨_, _, rfl, h, rfl⟩
        | plain _ _ hescape => exact absurd rfl hescape
      · rintro ⟨c, text, rfl, h, rfl⟩
        exact .backslash h
  | case5 x rest ih =>
      rw [List.map_cons, stands_literal_iff]
      constructor
      · intro h
        cases h with
        | escaped hagree h => exact ⟨_, _, rfl, hagree, (ih _).mp h⟩
        | plain _ _ hescape => exact absurd rfl hescape
      · rintro ⟨c, text, rfl, hagree, h⟩
        exact .escaped hagree ((ih _).mpr h)
  | case6 x rest hstar hany hlone hescaped ih =>
      have hescape : x ≠ '\\' := by
        rintro rfl
        cases rest with
        | nil => exact hlone rfl rfl
        | cons c rest => exact hescaped c rest rfl rfl
      rw [List.map_cons, stands_literal_iff]
      constructor
      · intro h
        cases h with
        | star => exact absurd rfl hstar
        | any => exact absurd rfl hany
        | escaped => exact absurd rfl hescape
        | backslash => exact absurd rfl hescape
        | plain _ _ _ hagree h => exact ⟨_, _, rfl, hagree, (ih _).mp h⟩
      · rintro ⟨c, text, rfl, hagree, h⟩
        exact .plain hstar hany hescape hagree ((ih _).mpr h)

/-- Squeezing changes nothing, also behind a run that stands just before. -/
theorem stands_squeeze_iff (ps : List Part) (text : List Char) :
    (Stands ignoreCase ((squeeze false ps).map Part.token) text ↔
        Stands ignoreCase (ps.map Part.token) text) ∧
      (Stands ignoreCase (.anyRun :: (squeeze true ps).map Part.token) text ↔
        Stands ignoreCase (.anyRun :: ps.map Part.token) text) := by
  induction ps generalizing text with
  | nil => exact ⟨Iff.rfl, Iff.rfl⟩
  | cons p ps ih =>
      cases p with
      | run =>
          have hafter := fun text => (ih text).2
          refine ⟨hafter text, ?_⟩
          rw [List.map_cons, Part.token, stands_run_run_iff]
          exact hafter text
      | any =>
          have hrest := stands_cons_congr (fun text => (ih text).1) .anyChar
          exact ⟨hrest text, stands_cons_congr hrest .anyRun text⟩
      | literal c =>
          have hrest := stands_cons_congr (fun text => (ih text).1) (Part.literal c).token
          exact ⟨hrest text, stands_cons_congr hrest .anyRun text⟩

/-! ### Without regard to case -/

/-- Characters that agree do so without regard to case. -/
theorem Agree.ignoringCase {x c : Char} (h : Agree ignoreCase x c) : Agree true x c := by
  rcases h with rfl | ⟨-, hlower⟩
  · exact .inl rfl
  · exact .inr ⟨rfl, hlower⟩

/-- Parts stand for no fewer texts when case does not count. -/
theorem stands_ignoringCase {ps : List Part} {text : List Char}
    (h : Stands ignoreCase (ps.map Part.token) text) : Stands true (ps.map Part.token) text := by
  induction ps generalizing text with
  | nil =>
      rw [List.map_nil, stands_nil_iff] at *
      exact h
  | cons p ps ih =>
      rw [List.map_cons] at *
      cases p with
      | run =>
          rw [Part.token, stands_run_iff] at *
          obtain ⟨rest, hsuffix, hrest⟩ := h
          exact ⟨rest, hsuffix, ih hrest⟩
      | any =>
          rw [Part.token, stands_one_iff (by decide)] at *
          obtain ⟨c, rest, rfl, -, hrest⟩ := h
          exact ⟨c, rest, rfl, rfl, ih hrest⟩
      | literal x =>
          rw [stands_literal_iff] at *
          obtain ⟨c, rest, rfl, hagree, hrest⟩ := h
          exact ⟨c, rest, rfl, hagree.ignoringCase, ih hrest⟩

/-- A pattern matches what the tokens of its parts stand for. -/
theorem isMatch_iff_stands (source command : String) :
    (ofSource source ignoreCase).isMatch command = true ↔
      Stands ignoreCase ((squeeze false (parts source.toList)).map Part.token) command.toList := by
  rw [isMatch, ofSource, parse?_translate source]
  simp only [Wildcard.isMatch, beq_iff_eq]
  exact compare_eq_hit_iff (anyPath_not_mem_tokens _) _

/-- A glob matches no fewer commands when case does not count. -/
theorem isMatch_ignoringCase {source command : String}
    (h : (ofSource source ignoreCase).isMatch command = true) :
    (ofSource source true).isMatch command = true := by
  rw [isMatch_iff_stands] at *
  exact stands_ignoringCase h

/-! ### Globs for everything -/

/-- Every part is spelt with a character. -/
theorem spelling_ne_nil (p : Part) : p.spelling ≠ [] := by
  cases p with
  | run | any => exact List.cons_ne_nil _ _
  | literal c =>
      rcases escapeChar_spec c with ⟨-, heq⟩ | ⟨-, heq⟩ <;> simp [Part.spelling, heq]

/-- Only a run is spelled with a star alone: a literal star stands in brackets. -/
theorem spelling_eq_star_iff {p : Part} : p.spelling = ['*'] ↔ p = .run := by
  cases p with
  | run => exact iff_of_true rfl rfl
  | any => decide
  | literal c =>
      refine iff_of_false ?_ nofun
      rcases escapeChar_spec c with ⟨-, heq⟩ | ⟨hc, heq⟩
      · simp [Part.spelling, heq]
      · simp [Part.spelling, heq, hc.2.1]

/-- Only one run is spelt as one star. -/
theorem flatMap_spelling_eq_star_iff {ps : List Part} :
    ps.flatMap Part.spelling = ['*'] ↔ ps = [.run] := by
  cases ps with
  | nil => exact iff_of_false nofun nofun
  | cons p ps =>
      have hrest : ps.flatMap Part.spelling = [] ↔ ps = [] := by
        rw [List.flatMap_eq_nil_iff, List.eq_nil_iff_forall_not_mem]
        exact forall₂_congr fun q _ => iff_false_intro (spelling_ne_nil q)
      rw [List.flatMap_cons, List.append_eq_singleton_iff, or_iff_right fun h =>
        spelling_ne_nil p h.1, spelling_eq_star_iff, hrest, List.cons.injEq]

/-- The test for such globs is a test for a single run. -/
theorem matchesEverything_iff_squeeze {source : String} :
    (ofSource source ignoreCase).matchesEverything = true ↔
      squeeze false (parts source.toList) = [.run] := by
  rw [matchesEverything, ofSource, parse?_translate source]
  simp only [beq_iff_eq]
  rw [← String.toList_inj, toList_translate, spell, ← flatMap_spelling_eq_star_iff]
  rfl

/-- What stands for the empty text consists of runs. -/
theorem eq_run_of_stands_nil {ps : List Part} (h : Stands ignoreCase (ps.map Part.token) []) :
    ∀ p ∈ ps, p = .run := by
  induction ps with
  | nil => exact fun _ hp => (List.not_mem_nil hp).elim
  | cons p ps ih =>
      rw [List.map_cons] at h
      by_cases hrun : p.token = .anyRun
      · rw [hrun, stands_run_iff] at h
        obtain ⟨rest, hrest, h⟩ := h
        rw [List.suffix_nil.mp hrest] at h
        refine List.forall_mem_cons.mpr ⟨?_, ih h⟩
        cases p with
        | run => rfl
        | any => cases hrun
        | literal c => exact (token_literal_ne_run c hrun).elim
      · rw [stands_one_iff hrun] at h
        obtain ⟨c, rest, ⟨⟩, -⟩ := h

/-- No run is left behind a run. -/
theorem head?_squeeze_ne_run (ps : List Part) : (squeeze true ps).head? ≠ some .run := by
  induction ps with
  | nil => nofun
  | cons p ps ih =>
      cases p with
      | run => exact ih
      | any | literal => nofun

/-- Nothing but runs is squeezed to one run, or to nothing. -/
theorem squeeze_of_forall_run {ps : List Part} (h : ∀ p ∈ squeeze false ps, p = .run) :
    squeeze false ps = [] ∨ squeeze false ps = [.run] := by
  cases ps with
  | nil => exact .inl rfl
  | cons p ps =>
      obtain ⟨rfl, hrest⟩ : p = .run ∧ ∀ q ∈ squeeze true ps, q = .run := by
        cases p with
        | run => exact List.forall_mem_cons.mp h
        | any => exact absurd (h .any List.mem_cons_self) nofun
        | literal c => exact absurd (h (.literal c) List.mem_cons_self) nofun
      refine .inr ?_
      cases htail : squeeze true ps with
      | nil => simp [squeeze, htail]
      | cons q qs =>
          have hq : q = .run := hrest q (by rw [htail]; exact List.mem_cons_self)
          exact absurd (by rw [htail, hq]; rfl) (head?_squeeze_ne_run ps)

/-- **The test on the pattern is right**: a glob is translated to a single star exactly if it
matches every command. -/
theorem matchesEverything_iff (source : String) (ignoreCase : Bool) :
    (ofSource source ignoreCase).matchesEverything = true ↔
      ∀ command, (ofSource source ignoreCase).isMatch command = true := by
  rw [matchesEverything_iff_squeeze]
  simp only [isMatch_iff_stands]
  constructor
  · intro h command
    rw [h, List.map_cons, Part.token, stands_run_iff]
    exact ⟨[], List.nil_suffix, .nil⟩
  · intro h
    -- the empty command leaves only runs, and any other command needs one
    refine (squeeze_of_forall_run (eq_run_of_stands_nil (h ""))).resolve_left fun hnil => ?_
    have hone := h "*"
    rw [hnil, List.map_nil, stands_nil_iff] at hone
    cases hone

/-! ### The theorem -/

/-- **A glob matches exactly the commands that it denotes**, and its translation is always a
wildcard pattern. -/
theorem isMatch_iff_denotes (source : String) (ignoreCase : Bool) :
    (ofSource source ignoreCase).compiled.isSome = true ∧
      ∀ command : String, (ofSource source ignoreCase).isMatch command = true ↔
        Denotes ignoreCase source.toList command.toList := by
  have hcompiled := parse?_translate source
  refine ⟨by rw [ofSource, hcompiled]; rfl, fun command => ?_⟩
  rw [isMatch, ofSource, hcompiled]
  simp only [Wildcard.isMatch, beq_iff_eq]
  rw [compare_eq_hit_iff (anyPath_not_mem_tokens _), (stands_squeeze_iff _ _).1,
    denotes_iff_stands]

end Turnstile.CommandGlob
