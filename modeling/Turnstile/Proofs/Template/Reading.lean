import Turnstile.Template

/-!
# How a template is read

`Reads cs ps` says that the pieces `ps` are a reading of the characters `cs`: from the left, and at
each place a percent sign written twice or an occurrence of a parameter, if one begins there, else
one character that stands for itself.

**Theorem** (`reads_iff`): a template has exactly one reading, and `pieces` gives it.
-/

namespace Turnstile.Template

/-! ### Readings -/

/-- A name is a letter or an underscore, and then letters, digits and underscores. -/
inductive IsName : List Char → Prop
  | intro {c : Char} {cs : List Char} (hstart : isNameStart c)
      (hrest : ∀ d ∈ cs, isNameChar d) : IsName (c :: cs)

/-- A percent sign that is written twice, or an occurrence of a parameter, begins here. -/
inductive Opens : List Char → Prop
  | percent (rest : List Char) : Opens ('%' :: '%' :: rest)
  | occurrence {name : List Char} (h : IsName name) (rest : List Char) :
      Opens ('%' :: (name ++ '%' :: rest))

/-- Readings of characters as pieces. -/
inductive Reads : List Char → List Piece → Prop
  | nil : Reads [] []
  | percent {cs : List Char} {ps : List Piece} (h : Reads cs ps) :
      Reads ('%' :: '%' :: cs) (.literal '%' :: ps)
  | occurrence {name cs : List Char} {ps : List Piece} (hname : IsName name) (h : Reads cs ps) :
      Reads ('%' :: (name ++ '%' :: cs)) (.parameter (String.ofList name) :: ps)
  | plain {c : Char} {cs : List Char} {ps : List Piece} (hnot : ¬ Opens (c :: cs))
      (h : Reads cs ps) : Reads (c :: cs) (.literal c :: ps)

/-- Every template has a reading. -/
theorem exists_reads (cs : List Char) : ∃ ps, Reads cs ps := by
  induction hlength : cs.length using Nat.strongRecOn generalizing cs with
  | ind n ih =>
      subst hlength
      cases cs with
      | nil => exact ⟨[], .nil⟩
      | cons c cs =>
          by_cases hopens : Opens (c :: cs)
          · cases hopens with
            | percent rest =>
                obtain ⟨ps, hps⟩ := ih _ (by simp only [List.length_cons]; omega) rest rfl
                exact ⟨_, .percent hps⟩
            | occurrence hname rest =>
                obtain ⟨ps, hps⟩ := ih _
                  (by simp only [List.length_cons, List.length_append]; omega) rest rfl
                exact ⟨_, .occurrence hname hps⟩
          · obtain ⟨ps, hps⟩ := ih _ (by simp only [List.length_cons]; omega) cs rfl
            exact ⟨_, .plain hopens hps⟩

/-! ### Characters of names -/

/-- What a name may begin with may also follow. -/
theorem isNameChar_of_isNameStart {c : Char} (h : isNameStart c) : isNameChar c := by
  unfold isNameStart at h
  unfold isNameChar Char.isAlphanum
  rw [Bool.or_assoc, Bool.or_comm c.isDigit, ← Bool.or_assoc, h, Bool.true_or]

/-- No name has a percent sign. -/
theorem ne_percent_of_isNameChar {c : Char} (h : isNameChar c) : c ≠ '%' := by
  rintro rfl
  revert h
  decide

/-- What goes on with a name belongs to names. -/
theorem isNameChar_of_continuesName {name : List Char} {c : Char} (h : continuesName name c) :
    isNameChar c := by
  cases name with
  | nil => exact isNameChar_of_isNameStart h
  | cons d name => exact h

/-! ### The reading that `pieces` gives -/

/-- Outside of a name, every character but the percent sign stands for itself. -/
theorem piecesFrom_none_cons {c : Char} (h : c ≠ '%') (cs : List Char) :
    piecesFrom none (c :: cs) = .literal c :: piecesFrom none cs := by
  rw [piecesFrom, if_neg h]

/-- A percent sign may open a placeholder. -/
theorem piecesFrom_none_percent (cs : List Char) :
    piecesFrom none ('%' :: cs) = piecesFrom (some []) cs := by
  rw [piecesFrom, if_pos rfl]

/-- The next one closes it; without a name between them, both stand for a percent sign. -/
theorem piecesFrom_some_percent (name cs : List Char) :
    piecesFrom (some name) ('%' :: cs) =
      (if name.isEmpty then .literal '%' else .parameter (String.ofList name.reverse)) ::
        piecesFrom none cs := by
  rw [piecesFrom, if_pos rfl]

/-- A name goes on. -/
theorem piecesFrom_some_cons {name : List Char} {c : Char} (h : continuesName name c)
    (cs : List Char) :
    piecesFrom (some name) (c :: cs) = piecesFrom (some (c :: name)) cs := by
  rw [piecesFrom, if_neg (ne_percent_of_isNameChar (isNameChar_of_continuesName h)), if_pos h]

/-- A name that breaks off was text, and so is what broke it off. -/
theorem piecesFrom_some_other {name : List Char} {c : Char} (hpercent : c ≠ '%')
    (h : ¬ continuesName name c) (cs : List Char) :
    piecesFrom (some name) (c :: cs) = literally name ++ .literal c :: piecesFrom none cs := by
  rw [piecesFrom, if_neg hpercent, if_neg h]

/-- The rest of a name is read up to the percent sign behind it. -/
theorem piecesFrom_some_append {d : Char} {name more : List Char}
    (h : ∀ c ∈ more, isNameChar c) (cs : List Char) :
    piecesFrom (some (d :: name)) (more ++ '%' :: cs) =
      .parameter (String.ofList ((d :: name).reverse ++ more)) :: piecesFrom none cs := by
  induction more generalizing d name with
  | nil => simp [piecesFrom_some_percent]
  | cons c more ih =>
      have hc : continuesName (d :: name) c := h c List.mem_cons_self
      rw [List.cons_append, piecesFrom_some_cons hc,
        ih fun e he => h e (List.mem_cons_of_mem _ he)]
      simp

/-- A name between percent signs is read as its parameter. -/
theorem pieces_occurrence {name : List Char} (h : IsName name) (cs : List Char) :
    pieces ('%' :: (name ++ '%' :: cs)) = .parameter (String.ofList name) :: pieces cs := by
  cases h with
  | @intro c name hstart hrest =>
      have hc : continuesName [] c := hstart
      rw [pieces, piecesFrom_none_percent, List.cons_append, piecesFrom_some_cons hc,
        piecesFrom_some_append hrest]
      rfl

/-- Two percent signs are read as one. -/
theorem pieces_percent (cs : List Char) :
    pieces ('%' :: '%' :: cs) = .literal '%' :: pieces cs := by
  rw [pieces, piecesFrom_none_percent, piecesFrom_some_percent]
  rfl

/-- After a percent sign and the characters of a name, the rest closes an occurrence. -/
def Closes (name cs : List Char) : Prop :=
  ∃ more rest, cs = more ++ '%' :: rest ∧
    ((name = [] ∧ more = []) ∨ (name = [] ∧ IsName more) ∨ (name ≠ [] ∧ ∀ c ∈ more, isNameChar c))

/-- A placeholder that is closed was opened. -/
theorem opens_of_closes {cs : List Char} (h : Closes [] cs) : Opens ('%' :: cs) := by
  obtain ⟨more, rest, rfl, ⟨-, rfl⟩ | ⟨-, hname⟩ | ⟨hne, -⟩⟩ := h
  · exact .percent rest
  · exact .occurrence hname rest
  · exact (hne rfl).elim

/-- A percent sign closes a placeholder. -/
theorem closes_percent (name cs : List Char) : Closes name ('%' :: cs) := by
  refine ⟨[], cs, rfl, ?_⟩
  by_cases hname : name = []
  · exact .inl ⟨hname, rfl⟩
  · exact .inr (.inr ⟨hname, fun c hc => (List.not_mem_nil hc).elim⟩)

/-- A placeholder is closed if it is behind one more character of its name. -/
theorem closes_cons {name cs : List Char} {c : Char} (hc : continuesName name c)
    (h : Closes (c :: name) cs) : Closes name (c :: cs) := by
  obtain ⟨more, rest, rfl, ⟨hnil, -⟩ | ⟨hnil, -⟩ | ⟨-, hmore⟩⟩ := h
  · cases hnil
  · cases hnil
  · refine ⟨c :: more, rest, rfl, .inr ?_⟩
    cases name with
    | nil => exact .inl ⟨rfl, .intro hc hmore⟩
    | cons d name =>
        refine .inr ⟨List.cons_ne_nil d name, fun e he => ?_⟩
        obtain rfl | he := List.mem_cons.mp he
        · exact hc
        · exact hmore e he

/-- What closes no occurrence stands for itself. -/
theorem piecesFrom_some_of_not_closes {name cs : List Char} (h : ¬ Closes name cs) :
    piecesFrom (some name) cs = literally name ++ piecesFrom none cs := by
  induction cs generalizing name with
  | nil => simp [piecesFrom]
  | cons c cs ih =>
      have hpercent : c ≠ '%' := by
        rintro rfl
        exact h (closes_percent name cs)
      rw [piecesFrom_none_cons hpercent]
      by_cases hc : continuesName name c
      · rw [piecesFrom_some_cons hc, ih fun hcloses => h (closes_cons hc hcloses)]
        simp [literally]
      · exact piecesFrom_some_other hpercent hc cs

/-- A character that opens nothing stands for itself. -/
theorem pieces_plain {c : Char} {cs : List Char} (h : ¬ Opens (c :: cs)) :
    pieces (c :: cs) = .literal c :: pieces cs := by
  by_cases hpercent : c = '%'
  · subst hpercent
    rw [pieces, piecesFrom_none_percent,
      piecesFrom_some_of_not_closes fun hcloses => h (opens_of_closes hcloses)]
    rfl
  · exact piecesFrom_none_cons hpercent cs

/-- There is only one way to read a template. -/
theorem eq_pieces_of_reads {cs : List Char} {ps : List Piece} (h : Reads cs ps) :
    ps = pieces cs := by
  induction h with
  | nil => rfl
  | percent _ ih => rw [pieces_percent, ih]
  | occurrence hname _ ih => rw [pieces_occurrence hname, ih]
  | plain hnot _ ih => rw [pieces_plain hnot, ih]

/-- **A template has exactly one reading.** -/
theorem reads_iff {cs : List Char} {ps : List Piece} : Reads cs ps ↔ ps = pieces cs := by
  refine ⟨eq_pieces_of_reads, ?_⟩
  rintro rfl
  obtain ⟨ps, hps⟩ := exists_reads cs
  rwa [← eq_pieces_of_reads hps]

/-! ### The names in a template -/

/-- The names that are seen after one more piece, the latest first. -/
def seeName (seen : List String) : Piece → List String
  | .parameter name => if seen.contains name then seen else name :: seen
  | .literal _ => seen

/-- The names of pieces, in the order in which they are first seen. -/
theorem namesOf_eq (ps : List Piece) : namesOf ps = (ps.foldl seeName []).reverse := rfl

/-- A piece adds the name of its parameter. -/
theorem mem_seeName {seen : List String} {p : Piece} {name : String} :
    name ∈ seeName seen p ↔ name ∈ seen ∨ p = .parameter name := by
  cases p with
  | literal c => simp [seeName]
  | parameter other =>
      rw [seeName]
      by_cases hseen : seen.contains other
      · rw [if_pos hseen]
        rw [List.contains_iff_mem] at hseen
        refine ⟨.inl, ?_⟩
        rintro (h | h)
        · exact h
        · cases h
          exact hseen
      · rw [if_neg hseen, List.mem_cons, Piece.parameter.injEq, eq_comm, or_comm]

/-- Pieces add the names of their parameters. -/
theorem mem_foldl_seeName {ps : List Piece} {seen : List String} {name : String} :
    name ∈ ps.foldl seeName seen ↔ name ∈ seen ∨ .parameter name ∈ ps := by
  induction ps generalizing seen with
  | nil => simp
  | cons p ps ih => rw [List.foldl_cons, ih, mem_seeName, or_assoc, List.mem_cons, eq_comm (a := p)]

/-- The names of a template are those that occur in its reading. -/
theorem mem_referenced {template name : String} :
    name ∈ referenced template ↔ .parameter name ∈ pieces template.toList := by
  rw [referenced, namesOf_eq, List.mem_reverse, mem_foldl_seeName]
  simp

/-- The name in a piece, if it meets a condition. -/
def Piece.nameWith (p : String → Bool) : Piece → Option String
  | .parameter name => if p name then some name else none
  | .literal _ => none

/-- The first name with a property is among those seen before, or is that of a piece. -/
theorem find?_foldl_seeName (p : String → Bool) (ps : List Piece) (seen : List String) :
    (ps.foldl seeName seen).reverse.find? p =
      (seen.reverse.find? p).or (ps.findSome? (Piece.nameWith p)) := by
  induction ps generalizing seen with
  | nil => simp
  | cons piece ps ih =>
      rw [List.foldl_cons, ih, List.findSome?_cons]
      cases piece with
      | literal c => rfl
      | parameter name =>
          rw [seeName, Piece.nameWith]
          by_cases hseen : seen.contains name
          · rw [if_pos hseen]
            cases hname : p name with
            | false => rfl
            | true =>
                have hfound : (seen.reverse.find? p).isSome := by
                  rw [List.find?_isSome]
                  exact ⟨name, List.mem_reverse.mpr (List.contains_iff_mem.mp hseen), hname⟩
                obtain ⟨first, hfirst⟩ := Option.isSome_iff_exists.mp hfound
                simp [hfirst]
          · rw [if_neg hseen, List.reverse_cons, List.find?_append, Option.or_assoc]
            cases hname : p name with
            | false => simp [hname]
            | true => simp [hname]

/-- The first name that meets a condition is that of the first occurrence whose name does. -/
theorem find?_referenced (p : String → Bool) (template : String) :
    (referenced template).find? p = (pieces template.toList).findSome? (Piece.nameWith p) := by
  rw [referenced, namesOf_eq, find?_foldl_seeName]
  rfl

/-- The first name with a property is that of the first placeholder whose name has it. -/
theorem find?_referenced_eq_some_iff {p : String → Bool} {template name : String} :
    (referenced template).find? p = some name ↔
      p name = true ∧ ∃ before after, Reads template.toList (before ++ .parameter name :: after) ∧
        ∀ other, .parameter other ∈ before → p other = false := by
  rw [find?_referenced, List.findSome?_eq_some_iff]
  simp only [reads_iff]
  constructor
  · rintro ⟨before, piece, after, hpieces, hpiece, hbefore⟩
    cases piece with
    | literal c => cases hpiece
    | parameter other =>
        rw [Piece.nameWith] at hpiece
        split at hpiece
        · next hother =>
            cases hpiece
            refine ⟨hother, before, after, hpieces.symm, fun earlier hmem => ?_⟩
            simpa [Piece.nameWith] using hbefore _ hmem
        · cases hpiece
  · rintro ⟨hname, before, after, hpieces, hbefore⟩
    refine ⟨before, .parameter name, after, hpieces.symm, if_pos hname, fun piece hmem => ?_⟩
    cases piece with
    | literal c => rfl
    | parameter other => simp [Piece.nameWith, hbefore other hmem]

end Turnstile.Template
