import Turnstile.Wildcard

/-!
# What the tokens of a wildcard pattern stand for

`Wildcard.Stands` says which texts a list of tokens stands for, one rule for each way in which a
token takes characters. **Theorem** (`compare_eq_hit_iff`): on tokens without a double star,
`Wildcard.compare` answers `hit` on exactly these texts.

The proof goes through the third answer. `hopeless` is given when the text ran out, and it stops
the search at once. No match is lost by that, because the tokens then stand for no end of the text
at all (`Rejects`); both facts go through the induction together (`Judged`).
-/

namespace Turnstile.Wildcard

variable {ignoreCase : Bool}

/-! ### The texts of a list of tokens -/

/-- The texts that tokens stand for: `*` takes any run of characters, and any other token one
character that it admits. -/
inductive Stands (ignoreCase : Bool) : List WildcardToken → List Char → Prop where
  | nil : Stands ignoreCase [] []
  | run (skipped : List Char) {tokens : List WildcardToken} {text : List Char} :
      Stands ignoreCase tokens text → Stands ignoreCase (.anyRun :: tokens) (skipped ++ text)
  | one {t : WildcardToken} {c : Char} {tokens : List WildcardToken} {text : List Char} :
      admits ignoreCase c t = true → Stands ignoreCase tokens text →
        Stands ignoreCase (t :: tokens) (c :: text)

/-- No end of a text is a text of the tokens. -/
def Rejects (ignoreCase : Bool) (tokens : List WildcardToken) (text : List Char) : Prop :=
  ∀ rest, rest <:+ text → ¬ Stands ignoreCase tokens rest

/-- No tokens stand for the empty text only. -/
theorem stands_nil_iff {text : List Char} : Stands ignoreCase [] text ↔ text = [] := by
  constructor
  · intro h
    cases h
    rfl
  · rintro rfl
    exact .nil

/-- A run takes what stands before some end of the text. -/
theorem stands_run_iff {tokens : List WildcardToken} {text : List Char} :
    Stands ignoreCase (.anyRun :: tokens) text ↔
      ∃ rest, rest <:+ text ∧ Stands ignoreCase tokens rest := by
  constructor
  · intro h
    cases h with
    | run skipped h => exact ⟨_, List.suffix_append _ _, h⟩
    | one ha _ => simp [admits] at ha
  · rintro ⟨rest, ⟨skipped, rfl⟩, h⟩
    exact .run skipped h

/-- A token that is no run takes the first character. -/
theorem stands_one_iff {t : WildcardToken} (ht : t ≠ .anyRun) {tokens : List WildcardToken}
    {text : List Char} :
    Stands ignoreCase (t :: tokens) text ↔
      ∃ c rest, text = c :: rest ∧ admits ignoreCase c t = true ∧
        Stands ignoreCase tokens rest := by
  constructor
  · intro h
    cases h with
    | run => exact absurd rfl ht
    | one ha h => exact ⟨_, _, rfl, ha, h⟩
  · rintro ⟨c, rest, rfl, ha, h⟩
    exact .one ha h

/-- Tokens in front of tokens that stand for the same texts stand for the same texts. -/
theorem stands_cons_congr {tokens tokens' : List WildcardToken}
    (h : ∀ text, Stands ignoreCase tokens text ↔ Stands ignoreCase tokens' text)
    (t : WildcardToken) (text : List Char) :
    Stands ignoreCase (t :: tokens) text ↔ Stands ignoreCase (t :: tokens') text := by
  by_cases hrun : t = .anyRun
  · subst hrun
    simp only [stands_run_iff, h]
  · simp only [stands_one_iff hrun, h]

/-- Two runs in a row take what one takes. -/
theorem stands_run_run_iff {tokens : List WildcardToken} {text : List Char} :
    Stands ignoreCase (.anyRun :: .anyRun :: tokens) text ↔
      Stands ignoreCase (.anyRun :: tokens) text := by
  simp only [stands_run_iff]
  constructor
  · rintro ⟨outer, houter, inner, hinner, h⟩
    exact ⟨inner, hinner.trans houter, h⟩
  · rintro ⟨rest, hrest, h⟩
    exact ⟨rest, hrest, rest, List.suffix_refl _, h⟩

/-! ### Comparing at the ends of a text -/

/-- The answer is that of some end of the text; at all longer ends there is a miss. -/
theorem exists_of_tryEnds {f : List Char → Verdict} {text : List Char} {v : Verdict}
    (h : tryEnds f text = v) :
    ∃ rest, rest <:+ text ∧ f rest = v ∧
      ∀ other, other <:+ text → other <:+ rest ∨ f other = .miss := by
  induction text with
  | nil =>
      refine ⟨[], List.suffix_refl _, h, fun other ho => .inl ho⟩
  | cons c text ih =>
      rw [tryEnds] at h
      by_cases hmiss : f (c :: text) = .miss
      · rw [hmiss] at h
        obtain ⟨rest, hrest, hf, hothers⟩ := ih h
        refine ⟨rest, hrest.trans (List.suffix_cons c text), hf, fun other ho => ?_⟩
        rcases List.suffix_cons_iff.mp ho with rfl | ho
        · exact .inr hmiss
        · exact hothers other ho
      · have hf : f (c :: text) = v := by
          cases hverdict : f (c :: text) <;> simp_all
        exact ⟨c :: text, List.suffix_refl _, hf, fun other ho => .inl ho⟩

/-- After a `miss`, there is a miss at every end of the text. -/
theorem eq_miss_of_tryEnds {f : List Char → Verdict} {text rest : List Char}
    (h : tryEnds f text = .miss) (hrest : rest <:+ text) : f rest = .miss := by
  induction text with
  | nil =>
      rw [List.suffix_nil.mp hrest]
      exact h
  | cons c text ih =>
      rw [tryEnds] at h
      cases hverdict : f (c :: text) with
      | miss =>
          rw [hverdict] at h
          rcases List.suffix_cons_iff.mp hrest with rfl | hrest
          · exact hverdict
          · exact ih h hrest
      | hit => rw [hverdict] at h; cases h
      | hopeless => rw [hverdict] at h; cases h

/-! ### The comparison -/

/-- The comparison of a token that takes one character. -/
theorem compare_one {t : WildcardToken} (hrun : t ≠ .anyRun) (hpath : t ≠ .anyPath)
    (tokens : List WildcardToken) (text : List Char) :
    compare ignoreCase (t :: tokens) text =
      match text with
      | [] => .hopeless
      | c :: rest => if admits ignoreCase c t then compare ignoreCase tokens rest else .miss := by
  cases t <;> cases text <;> first | contradiction | simp only [compare]

/-- The comparison judges tokens rightly: a hit is a text of the tokens, and a hopeless text has no
end that is one. -/
structure Judged (ignoreCase : Bool) (tokens : List WildcardToken) : Prop where
  hit_iff : ∀ text, compare ignoreCase tokens text = .hit ↔ Stands ignoreCase tokens text
  rejects : ∀ text, compare ignoreCase tokens text = .hopeless → Rejects ignoreCase tokens text

/-- No tokens are judged right. -/
theorem judged_nil : Judged ignoreCase [] where
  hit_iff text := by
    rw [stands_nil_iff]
    cases text <;> simp [compare]
  rejects text h := by
    cases text <;> simp [compare] at h

/-- A run in front is judged right: it takes as few characters as the rest allows. -/
theorem judged_run {tokens : List WildcardToken} (ih : Judged ignoreCase tokens) :
    Judged ignoreCase (.anyRun :: tokens) where
  hit_iff text := by
    rw [stands_run_iff]
    simp only [compare]
    constructor
    · intro h
      obtain ⟨rest, hrest, hhit, -⟩ := exists_of_tryEnds h
      exact ⟨rest, hrest, (ih.hit_iff rest).mp hhit⟩
    · rintro ⟨rest, hrest, hstands⟩
      have hhit := (ih.hit_iff rest).mpr hstands
      cases hverdict : tryEnds (compare ignoreCase tokens) text with
      | hit => rfl
      | miss =>
          rw [eq_miss_of_tryEnds hverdict hrest] at hhit
          cases hhit
      | hopeless =>
          -- the end at which the search stopped would itself have to be rejected
          obtain ⟨stop, -, hstop, hothers⟩ := exists_of_tryEnds hverdict
          rcases hothers rest hrest with hinside | hmiss
          · exact absurd hstands (ih.rejects stop hstop rest hinside)
          · rw [hmiss] at hhit
            cases hhit
  rejects text h other hother hstands := by
    simp only [compare] at h
    obtain ⟨rest, hrest, hstands⟩ := stands_run_iff.mp hstands
    obtain ⟨stop, -, hstop, hothers⟩ := exists_of_tryEnds h
    rcases hothers rest (hrest.trans hother) with hinside | hmiss
    · exact ih.rejects stop hstop rest hinside hstands
    · rw [(ih.hit_iff rest).mpr hstands] at hmiss
      cases hmiss

/-- A token for one character in front is judged right. -/
theorem judged_one {t : WildcardToken} (hrun : t ≠ .anyRun) (hpath : t ≠ .anyPath)
    {tokens : List WildcardToken} (ih : Judged ignoreCase tokens) :
    Judged ignoreCase (t :: tokens) where
  hit_iff text := by
    rw [compare_one hrun hpath, stands_one_iff hrun]
    cases text with
    | nil => simp
    | cons c text =>
        by_cases hadmits : admits ignoreCase c t = true
        · simp only [hadmits, if_true]
          rw [ih.hit_iff text]
          refine ⟨fun h => ⟨c, text, rfl, hadmits, h⟩, ?_⟩
          rintro ⟨c', rest, heq, -, h⟩
          rw [(List.cons.inj heq).2]
          exact h
        · simp [hadmits]
  rejects text h other hother hstands := by
    obtain ⟨c', rest, rfl, -, hstands⟩ := (stands_one_iff hrun).mp hstands
    rw [compare_one hrun hpath] at h
    cases text with
    | nil => cases List.suffix_nil.mp hother
    | cons c text =>
        by_cases hadmits : admits ignoreCase c t = true
        · simp only [hadmits, if_true] at h
          refine ih.rejects text h rest ?_ hstands
          rcases List.suffix_cons_iff.mp hother with heq | hother
          · have htail := (List.cons.inj heq).2
            simpa only [htail] using List.suffix_refl rest
          · exact (List.suffix_cons c' rest).trans hother
        · simp [hadmits] at h

/-- The comparison judges all tokens rightly, as long as there is no double star among them. -/
theorem judged {tokens : List WildcardToken} (hpath : .anyPath ∉ tokens) :
    Judged ignoreCase tokens := by
  induction tokens with
  | nil => exact judged_nil
  | cons t tokens ih =>
      have ih := ih (fun h => hpath (List.mem_cons_of_mem _ h))
      by_cases hrun : t = .anyRun
      · subst hrun
        exact judged_run ih
      · exact judged_one hrun (fun h => hpath (h ▸ List.mem_cons_self)) ih

/-- **A comparison hits exactly the texts that the tokens stand for.** -/
theorem compare_eq_hit_iff {tokens : List WildcardToken} (hpath : .anyPath ∉ tokens)
    (text : List Char) :
    compare ignoreCase tokens text = .hit ↔ Stands ignoreCase tokens text :=
  (judged hpath).hit_iff text

end Turnstile.Wildcard
