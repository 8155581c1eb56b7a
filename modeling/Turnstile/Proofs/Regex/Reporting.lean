import Turnstile.Regex.Matcher

/-!
# What one pass over a text reports

A pass goes from match to match, and behind an empty one it goes on after the next character
(`Span.next`). `Program.reported` lists the matches by their positions in the text, and `erase` is
a text without the characters whose positions lie in one of a list of spans.

**Theorem** (`Program.deletes`): the reported matches are pieces of the text that do not overlap, in
their order, and what a pass leaves is exactly the text without them. Of any pass with such a report
(`Deletes`) it follows that it leaves a sublist of the text (`Deletes.sublist`), and that it leaves
a text alone exactly if each match that it reports is empty (`Deletes.eq_self_iff`).

That a match lies in the text it is found in (`find?_isWithin`) rests on where threads start: at or
before the position at which they are followed (`StartedBy`).
-/

namespace Turnstile.Regex

/-! ### A match lies in the text -/

/-- The threads at a position, and the match found there, have started at or before it. -/
structure StartedBy (pos : Nat) (st : Settling) : Prop where
  waiting : ∀ t ∈ st.waiting, t.start ≤ pos
  accepted : ∀ start, st.accepted = some start → start ≤ pos

/-- A thread that started in time settles into threads that did. -/
theorem settle_startedBy {code : Code} {p : Around} {stamp fuel pos : Nat} {t : Thread}
    {st : Settling} (ht : t.start ≤ pos) (h : StartedBy pos st) :
    StartedBy pos (settle code p stamp fuel t st) := by
  induction fuel generalizing t st with
  | zero => exact h
  | succ fuel ih =>
      unfold settle
      split
      · exact h
      · have hseen : StartedBy pos { st with seen := st.seen.set! t.address stamp } :=
          ⟨h.waiting, h.accepted⟩
        dsimp only
        split
        · exact hseen
        · refine ⟨?_, hseen.accepted⟩
          intro t' ht'
          rcases List.mem_cons.mp ht' with rfl | ht'
          · exact ht
          · exact hseen.waiting t' ht'
        · split
          · exact ih ht hseen
          · exact hseen
        · exact ih ht (ih ht hseen)
        · refine ⟨hseen.waiting, ?_⟩
          intro start hstart
          cases hstart
          exact ht

/-- So do any number of threads. -/
theorem foldl_settle_startedBy {code : Code} {p : Around} {stamp fuel pos : Nat}
    {threads : List Thread} (hthreads : ∀ t ∈ threads, t.start ≤ pos) {st : Settling}
    (h : StartedBy pos st) :
    StartedBy pos (threads.foldl (fun st t => settle code p stamp fuel t st) st) := by
  induction threads generalizing st with
  | nil => exact h
  | cons t threads ih =>
      apply ih fun t' ht' => hthreads t' (List.mem_cons_of_mem _ ht')
      exact settle_startedBy (hthreads t List.mem_cons_self) h

/-- A thread that reads a character keeps its start. -/
theorem start_le_of_mem_advance {code : Code} {c : Char} {waiting : List Thread} {pos : Nat}
    (h : ∀ t ∈ waiting, t.start ≤ pos) {t : Thread} (ht : t ∈ advance code c waiting) :
    t.start ≤ pos := by
  obtain ⟨t', ht', hsome⟩ := List.mem_filterMap.mp ht
  split at hsome
  · split at hsome
    · cases hsome
      exact h t' ht'
    · cases hsome
  · cases hsome

/-- A piece of the characters before a position. -/
structure Span.IsWithin (s : Span) (size : Nat) : Prop where
  start_le : s.start ≤ s.stop
  stop_le : s.stop ≤ size

/-- A match within a text is within a longer one. -/
theorem Span.IsWithin.mono {s : Span} {size more : Nat} (h : s.IsWithin size)
    (hle : size ≤ more) : s.IsWithin more :=
  ⟨h.start_le, Nat.le_trans h.stop_le hle⟩

/-- What is settled at one position, where one more thread starts unless there is a match. -/
def settleAt (prog : Program) (around : Around) (pos : Nat) (threads : List Thread)
    (found : Option Span) (seen : Array Nat) : Settling :=
  (if found.isNone then threads ++ [⟨prog.start, pos⟩] else threads).foldl
    (fun st t => settle prog.code around (pos + 1) (prog.code.size + 1) t st) { seen }

/-- The best match after a position: the one that is accepted there, or the one from before. -/
def Settling.best (st : Settling) (pos : Nat) (found : Option Span) : Option Span :=
  match st.accepted with
  | some start => some ⟨start, pos⟩
  | none => found

section search

variable {prog : Program} {anyMatch : Bool} {before : Option Char} {pos : Nat}
  {threads : List Thread} {found : Option Span} {seen : Array Nat}

/-- At the end of the text the best match so far is the answer. -/
theorem searchFrom_nil :
    searchFrom prog anyMatch [] before pos threads found seen =
      (settleAt prog ⟨before, none⟩ pos threads found seen).best pos found := rfl

/-- Otherwise the threads settle, and the rest of them read the next character. -/
theorem searchFrom_cons (c : Char) (rest : List Char) :
    searchFrom prog anyMatch (c :: rest) before pos threads found seen =
      let st := settleAt prog ⟨before, some c⟩ pos threads found seen
      let best := st.best pos found
      if best.isSome && (anyMatch || st.waiting.reverse.isEmpty) then best
      else searchFrom prog anyMatch rest (some c) (pos + 1)
        (advance prog.code c st.waiting.reverse) best st.seen := rfl

/-- What has settled at a position started there or before. -/
theorem settleAt_startedBy {around : Around} (hthreads : ∀ t ∈ threads, t.start ≤ pos) :
    StartedBy pos (settleAt prog around pos threads found seen) := by
  apply foldl_settle_startedBy
  · intro t ht
    split at ht
    · rcases List.mem_append.mp ht with ht | ht
      · exact hthreads t ht
      · obtain rfl := List.mem_singleton.mp ht
        exact Nat.le_refl pos
    · exact hthreads t ht
  · exact ⟨by simp, by simp⟩

/-- A match that is found at a position ends there or before. -/
theorem StartedBy.best_isWithin {st : Settling} (hst : StartedBy pos st)
    (hfound : ∀ s, found = some s → s.IsWithin pos) (s : Span) (h : st.best pos found = some s) :
    s.IsWithin pos := by
  unfold Settling.best at h
  cases haccepted : st.accepted with
  | some start =>
      rw [haccepted] at h
      cases h
      exact ⟨hst.accepted start haccepted, Nat.le_refl pos⟩
  | none =>
      rw [haccepted] at h
      exact hfound s h

/-- A match that is found later ends within the text. -/
theorem searchFrom_isWithin {rest : List Char} (hthreads : ∀ t ∈ threads, t.start ≤ pos)
    (hfound : ∀ s, found = some s → s.IsWithin pos) {s : Span}
    (h : searchFrom prog anyMatch rest before pos threads found seen = some s) :
    s.IsWithin (pos + rest.length) := by
  induction rest generalizing before pos threads found seen with
  | nil =>
      rw [searchFrom_nil] at h
      exact (settleAt_startedBy hthreads).best_isWithin hfound s h
  | cons c rest ih =>
      rw [searchFrom_cons] at h
      have hst : StartedBy pos (settleAt prog ⟨before, some c⟩ pos threads found seen) :=
        settleAt_startedBy hthreads
      have hbest := hst.best_isWithin hfound
      dsimp only at h
      split at h
      · exact (hbest s h).mono (Nat.le_add_right pos _)
      · have hwithin : s.IsWithin (pos + 1 + rest.length) := by
          refine ih ?_ (fun s' hs' => (hbest s' hs').mono (Nat.le_succ pos)) h
          intro t ht
          apply Nat.le_succ_of_le
          apply start_le_of_mem_advance _ ht
          intro t' ht'
          exact hst.waiting t' (List.mem_reverse.mp ht')
        rw [List.length_cons]
        exact hwithin.mono (by omega)

end search

/-- A match lies within the text. -/
theorem find?_isWithin {prog : Program} {before : Option Char} {rest : List Char} {s : Span}
    (h : find? prog before rest = some s) : s.IsWithin rest.length := by
  have hwithin := searchFrom_isWithin (by simp) (by simp) h
  rwa [Nat.zero_add] at hwithin

/-! ### The matches of a pass -/

/-- A span behind a number of characters. -/
def Span.shift (s : Span) (pos : Nat) : Span := ⟨pos + s.start, pos + s.stop⟩

/-- Where a pass goes on behind a match: an empty one is left by the next character. -/
def Span.next (s : Span) : Nat := if s.start < s.stop then s.stop else s.start + 1

/-- The search always goes on behind at least one character. -/
theorem Span.next_pos (s : Span) : 0 < s.next := by
  unfold Span.next
  split <;> omega

/-- It goes on behind the match. -/
theorem Span.IsWithin.stop_le_next {s : Span} {size : Nat} (h : s.IsWithin size) :
    s.stop ≤ s.next := by
  have hle := h.start_le
  unfold Span.next
  split <;> omega

/-- The matches that a pass reports in the rest of a text, given the character before it and the
number of characters before it. -/
def Program.reportedFrom (prog : Program) (before : Option Char) (pos : Nat) (rest : List Char) :
    List Span :=
  match find? prog before rest with
  | none => []
  | some s =>
    s.shift pos ::
      if s.next ≤ rest.length then
        prog.reportedFrom (rest.take s.next).getLast? (pos + s.next) (rest.drop s.next)
      else []
termination_by rest.length
decreasing_by
  have hpos := s.next_pos
  simp only [List.length_drop]
  omega

/-- The matches that a pass reports in a text, in order. -/
def Program.reported (prog : Program) (text : List Char) : List Span :=
  prog.reportedFrom none 0 text

/-- True of positions in none of the spans. -/
def outside (spans : List Span) (i : Nat) : Bool :=
  spans.all fun s => decide (i < s.start) || decide (s.stop ≤ i)

/-- A text, the first character of which is at `pos`, without the characters that lie in the
spans. -/
def eraseFrom (spans : List Span) (pos : Nat) (text : List Char) : List Char :=
  ((text.zipIdx pos).filter fun p => outside spans p.2).map (·.1)

/-- A text without the characters that lie in the spans. -/
def erase (spans : List Span) (text : List Char) : List Char := eraseFrom spans 0 text

/-! ### Erasing -/

/-- A character is outside of all matches if it is before or behind each of them. -/
theorem outside_iff {spans : List Span} {i : Nat} :
    outside spans i = true ↔ ∀ s ∈ spans, i < s.start ∨ s.stop ≤ i := by
  simp [outside]

section erase

variable {spans : List Span} {pos : Nat} {text : List Char}

/-- Two parts of a text are erased one after the other. -/
theorem eraseFrom_append (xs ys : List Char) :
    eraseFrom spans pos (xs ++ ys) =
      eraseFrom spans pos xs ++ eraseFrom spans (pos + xs.length) ys := by
  simp [eraseFrom, List.zipIdx_append]

/-- The characters of a text have the positions from its start to its end. -/
theorem bounds_of_mem_zipIdx {p : Char × Nat} (hp : p ∈ text.zipIdx pos) :
    pos ≤ p.2 ∧ p.2 < pos + text.length := by
  have hlt := List.snd_lt_of_mem_zipIdx hp
  exact ⟨List.le_snd_of_mem_zipIdx hp, by omega⟩

/-- Only the positions of the text count. -/
theorem eraseFrom_congr {other : List Span}
    (h : ∀ i, pos ≤ i → i < pos + text.length → outside spans i = outside other i) :
    eraseFrom spans pos text = eraseFrom other pos text := by
  unfold eraseFrom
  rw [List.filter_congr]
  intro p hp
  obtain ⟨hle, hlt⟩ := bounds_of_mem_zipIdx hp
  exact h p.2 hle hlt

/-- Where no match is, nothing is erased. -/
theorem eraseFrom_of_outside
    (h : ∀ i, pos ≤ i → i < pos + text.length → outside spans i = true) :
    eraseFrom spans pos text = text := by
  have hall : (text.zipIdx pos).filter (fun p => outside spans p.2) = text.zipIdx pos := by
    rw [List.filter_eq_self]
    intro p hp
    obtain ⟨hle, hlt⟩ := bounds_of_mem_zipIdx hp
    exact h p.2 hle hlt
  rw [eraseFrom, hall, List.zipIdx_map_fst]

/-- Spans that are clear of a text erase nothing of it. -/
theorem eraseFrom_of_clear (h : ∀ s ∈ spans, pos + text.length ≤ s.start ∨ s.stop ≤ pos) :
    eraseFrom spans pos text = text := by
  apply eraseFrom_of_outside
  intro i hle hlt
  rw [outside_iff]
  intro s hs
  have hclear := h s hs
  omega

/-- There is nothing in an empty span. -/
theorem eraseFrom_of_empty (h : ∀ s ∈ spans, s.stop ≤ s.start) :
    eraseFrom spans pos text = text := by
  apply eraseFrom_of_outside
  intro i _ _
  rw [outside_iff]
  intro s hs
  have hle := h s hs
  omega

/-- A span that covers a text erases all of it. -/
theorem eraseFrom_of_covered {s : Span} (hmem : s ∈ spans) (hstart : s.start ≤ pos)
    (hstop : pos + text.length ≤ s.stop) : eraseFrom spans pos text = [] := by
  rw [eraseFrom, List.map_eq_nil_iff, List.filter_eq_nil_iff]
  intro p hp hout
  obtain ⟨hle, hlt⟩ := bounds_of_mem_zipIdx hp
  have hclear := outside_iff.mp hout s hmem
  omega

/-- A span before a text erases nothing of it. -/
theorem eraseFrom_cons_of_behind {s : Span} (h : s.stop ≤ pos) :
    eraseFrom (s :: spans) pos text = eraseFrom spans pos text := by
  apply eraseFrom_congr
  intro i hle _
  have hout : decide (s.stop ≤ i) = true := by
    rw [decide_eq_true_eq]
    omega
  simp [outside, hout]

/-- What lies between two places of a text, and what lies behind the second. -/
theorem drop_take_append_drop {a b : Nat} (hab : a ≤ b) :
    (text.take b).drop a ++ text.drop b = text.drop a := by
  obtain ⟨d, rfl⟩ := Nat.exists_eq_add_of_le hab
  rw [List.drop_take, Nat.add_sub_cancel_left, ← List.drop_drop, List.take_append_drop]

/-- The first match is cut out, and a character behind an empty one stays. -/
theorem eraseFrom_shift_cons {s : Span} {tail : List Span} (hs : s.IsWithin text.length)
    (hnext : s.next ≤ text.length) (htail : ∀ t ∈ tail, pos + s.next ≤ t.start) :
    eraseFrom (s.shift pos :: tail) pos text =
      text.take s.start ++ (text.take s.next).drop s.stop ++
        eraseFrom tail (pos + s.next) (text.drop s.next) := by
  have hstart := hs.start_le
  have hstop := hs.stop_le
  have hstopNext := hs.stop_le_next
  let front := text.take s.start
  let found := (text.take s.stop).drop s.start
  let between := (text.take s.next).drop s.stop
  have hsplit : front ++ (found ++ (between ++ text.drop s.next)) = text := by
    rw [drop_take_append_drop hstopNext, drop_take_append_drop hstart, List.take_append_drop]
  have hfront : front.length = s.start := by
    rw [List.length_take]
    omega
  have hfound : pos + s.start + found.length = pos + s.stop := by
    rw [List.length_drop, List.length_take]
    omega
  have hbetween : pos + s.stop + between.length = pos + s.next := by
    rw [List.length_drop, List.length_take]
    omega
  calc eraseFrom (s.shift pos :: tail) pos text
      = eraseFrom (s.shift pos :: tail) pos
          (front ++ (found ++ (between ++ text.drop s.next))) := by
        rw [hsplit]
    _ = eraseFrom (s.shift pos :: tail) pos front ++
          (eraseFrom (s.shift pos :: tail) (pos + s.start) found ++
            (eraseFrom (s.shift pos :: tail) (pos + s.stop) between ++
              eraseFrom (s.shift pos :: tail) (pos + s.next) (text.drop s.next))) := by
        rw [eraseFrom_append, eraseFrom_append, eraseFrom_append, hfront, hfound, hbetween]
    _ = front ++ ([] ++ (between ++ eraseFrom tail (pos + s.next) (text.drop s.next))) := by
        congr 1
        · apply eraseFrom_of_clear
          intro t ht
          rw [hfront]
          rcases List.mem_cons.mp ht with rfl | ht
          · exact .inl (Nat.le_refl _)
          · have hle := htail t ht
            omega
        · congr 1
          · exact eraseFrom_of_covered List.mem_cons_self (Nat.le_refl _) (Nat.le_of_eq hfound)
          · congr 1
            · apply eraseFrom_of_clear
              intro t ht
              rw [hbetween]
              rcases List.mem_cons.mp ht with rfl | ht
              · exact .inr (Nat.le_refl _)
              · exact .inl (htail t ht)
            · apply eraseFrom_cons_of_behind
              show pos + s.stop ≤ pos + s.next
              omega
    _ = front ++ between ++ eraseFrom tail (pos + s.next) (text.drop s.next) := by
        rw [List.nil_append, List.append_assoc]

/-- What is left stays in its order. -/
theorem erase_sublist (spans : List Span) (text : List Char) :
    (erase spans text).Sublist text := by
  have hkept : (text.zipIdx.filter fun p => outside spans p.2).Sublist text.zipIdx :=
    List.filter_sublist
  have hchars := hkept.map Prod.fst
  rwa [List.zipIdx_map_fst] at hchars

/-- Erasing leaves a text alone exactly if there is nothing in the spans. -/
theorem erase_eq_self_iff (hwithin : ∀ s ∈ spans, s.IsWithin text.length) :
    erase spans text = text ↔ ∀ s ∈ spans, s.start = s.stop := by
  constructor
  · intro herase s hs
    have hlength := congrArg List.length herase
    rw [erase, eraseFrom, List.length_map, ← List.length_zipIdx (l := text) (i := 0),
      List.length_filter_eq_length_iff] at hlength
    have hle := (hwithin s hs).start_le
    have hstop := (hwithin s hs).stop_le
    apply Decidable.byContradiction
    intro hne
    -- the first character of a span with a character is erased
    have hstart : s.start < text.length := by omega
    have hmem : (text[s.start], s.start) ∈ text.zipIdx := by
      rw [List.mk_mem_zipIdx_iff_getElem?]
      exact List.getElem?_eq_getElem hstart
    have hclear := outside_iff.mp (hlength _ hmem) s hs
    dsimp only at hclear
    omega
  · intro hempty
    exact eraseFrom_of_empty fun s hs => Nat.le_of_eq (hempty s hs).symm

end erase

/-! ### What a pass leaves -/

section pass

variable {prog : Program} {before : Option Char} {rest : List Char} {s : Span}

/-- Nothing is reported where nothing is found. -/
theorem reportedFrom_none (h : find? prog before rest = none) (pos : Nat) :
    prog.reportedFrom before pos rest = [] := by
  rw [Program.reportedFrom, h]

/-- A match is reported, and then those behind it. -/
theorem reportedFrom_some (h : find? prog before rest = some s) (pos : Nat) :
    prog.reportedFrom before pos rest =
      s.shift pos ::
        if s.next ≤ rest.length then
          prog.reportedFrom (rest.take s.next).getLast? (pos + s.next) (rest.drop s.next)
        else [] := by
  rw [Program.reportedFrom, h]

/-- The rest of a text without a match is kept. -/
theorem deleteFrom_none (h : find? prog before rest = none) (fuel : Nat) (kept : List Char) :
    prog.deleteFrom (fuel + 1) before rest kept = kept.reverse ++ rest := by
  rw [Program.deleteFrom, h]

/-- A pass drops the match and keeps what stands before it, and the character behind an empty
one. -/
theorem deleteFrom_some (h : find? prog before rest = some s) (fuel : Nat) (kept : List Char) :
    prog.deleteFrom (fuel + 1) before rest kept =
      if s.next ≤ rest.length then
        prog.deleteFrom fuel (rest.take s.next).getLast? (rest.drop s.next)
          ((rest.take s.start ++ (rest.take s.next).drop s.stop).reverse ++ kept)
      else kept.reverse ++ rest := by
  have hle := (find?_isWithin h).start_le
  have hstop := (find?_isWithin h).stop_le
  rw [Program.deleteFrom, h]
  dsimp only
  by_cases hlt : s.start < s.stop
  · have hnext : s.next = s.stop := if_pos hlt
    obtain ⟨c, hc⟩ : ∃ c, (rest.take s.stop).getLast? = some c := by
      have hne : rest.take s.stop ≠ [] := by
        intro hnil
        have hlength := congrArg List.length hnil
        rw [List.length_take, List.length_nil] at hlength
        omega
      exact ⟨_, List.getLast?_eq_some_getLast hne⟩
    rw [if_pos hlt, hnext, if_pos hstop, hc]
    simp
  · have hnext : s.next = s.start + 1 := if_neg hlt
    have heq : s.stop = s.start := by omega
    rw [if_neg hlt, hnext, heq]
    cases hdrop : rest.drop s.start with
    | nil =>
        have hlength : rest.length ≤ s.start := List.drop_eq_nil_iff.mp hdrop
        rw [if_neg (by omega), List.take_of_length_le hlength]
        simp
    | cons c cut =>
        have hget : rest[s.start]? = some c := by
          rw [← List.head?_drop, hdrop]
          rfl
        obtain ⟨hlength, -⟩ := List.getElem?_eq_some_iff.mp hget
        have htake : rest.take (s.start + 1) = rest.take s.start ++ [c] := by
          rw [List.take_add_one, hget]
          rfl
        have hbehind : (rest.take (s.start + 1)).drop s.start = [c] := by
          rw [htake]
          exact List.drop_left' (List.length_take_of_le (Nat.le_of_lt hlength))
        have hcut : rest.drop (s.start + 1) = cut := by
          rw [← List.drop_drop, hdrop]
          rfl
        rw [if_pos (Nat.succ_le_of_lt hlength), hbehind, hcut, htake, List.getLast?_concat]
        simp

/-- The reported matches lie behind the characters before the rest, and in the text. -/
theorem mem_reportedFrom {pos : Nat} {t : Span} (ht : t ∈ prog.reportedFrom before pos rest) :
    pos ≤ t.start ∧ t.IsWithin (pos + rest.length) := by
  induction hlength : rest.length using Nat.strongRecOn generalizing before pos rest with
  | ind n ih =>
      subst hlength
      cases h : find? prog before rest with
      | none =>
          rw [reportedFrom_none h] at ht
          cases ht
      | some s =>
          have hwithin := find?_isWithin h
          rw [reportedFrom_some h] at ht
          rcases List.mem_cons.mp ht with rfl | ht
          · exact ⟨Nat.le_add_right pos _, Nat.add_le_add_left hwithin.start_le pos,
              Nat.add_le_add_left hwithin.stop_le pos⟩
          · split at ht
            · next hnext =>
              have hpos := s.next_pos
              have hlength : (rest.drop s.next).length = rest.length - s.next := List.length_drop
              obtain ⟨hle, hbound⟩ := ih _ (by omega) ht rfl
              exact ⟨by omega, hbound.mono (by omega)⟩
            · cases ht

/-- The reported matches do not overlap. -/
theorem pairwise_reportedFrom (pos : Nat) :
    (prog.reportedFrom before pos rest).Pairwise fun s t => s.stop ≤ t.start := by
  induction hlength : rest.length using Nat.strongRecOn generalizing before pos rest with
  | ind n ih =>
      subst hlength
      cases h : find? prog before rest with
      | none =>
          rw [reportedFrom_none h]
          exact .nil
      | some s =>
          have hwithin := find?_isWithin h
          rw [reportedFrom_some h]
          split
          · next hnext =>
            have hpos := s.next_pos
            have hlength : (rest.drop s.next).length = rest.length - s.next := List.length_drop
            refine List.pairwise_cons.mpr ⟨?_, ih _ (by omega) _ rfl⟩
            intro t ht
            have hle := (mem_reportedFrom ht).1
            have hstop := hwithin.stop_le_next
            show pos + s.stop ≤ t.start
            omega
          · exact List.pairwise_singleton _ _

/-- **A pass leaves the text without the matches that it reports.** -/
theorem deleteFrom_eq_eraseFrom {fuel : Nat} (hfuel : rest.length < fuel) (pos : Nat)
    (kept : List Char) :
    prog.deleteFrom fuel before rest kept =
      kept.reverse ++ eraseFrom (prog.reportedFrom before pos rest) pos rest := by
  induction fuel generalizing before rest pos kept with
  | zero => omega
  | succ fuel ih =>
      cases h : find? prog before rest with
      | none => rw [deleteFrom_none h, reportedFrom_none h, eraseFrom_of_empty (by simp)]
      | some s =>
          have hwithin := find?_isWithin h
          rw [deleteFrom_some h, reportedFrom_some h]
          by_cases hnext : s.next ≤ rest.length
          · have hpos := s.next_pos
            have hlength : (rest.drop s.next).length = rest.length - s.next := List.length_drop
            rw [if_pos hnext, if_pos hnext, ih (by omega) (pos + s.next),
              eraseFrom_shift_cons hwithin hnext fun t ht => (mem_reportedFrom ht).1]
            simp
          · -- the pass ends with an empty match behind the last character
            have hempty : s.stop ≤ s.start := by
              have hstop := hwithin.stop_le
              apply Nat.le_of_not_lt
              intro hlt
              have hstopNext : s.next = s.stop := if_pos hlt
              omega
            rw [if_neg hnext, if_neg hnext, eraseFrom_of_empty]
            intro t ht
            obtain rfl := List.mem_singleton.mp ht
            exact Nat.add_le_add_left hempty pos

end pass

/-- A pass over texts and the matches that it reports in them: they are pieces of the text, one
behind the other, and the pass takes away what lies in them and nothing else. -/
structure Deletes (pass : List Char → List Char) (reported : List Char → List Span) : Prop where
  within : ∀ text, ∀ s ∈ reported text, s.IsWithin text.length
  apart : ∀ text, (reported text).Pairwise fun s t => s.stop ≤ t.start
  pass_eq : ∀ text, pass text = erase (reported text) text

/-- **A pass deletes the matches that it reports.** -/
theorem Program.deletes (prog : Program) : Deletes prog.deleteMatches prog.reported where
  within text s hs := by
    have hwithin := (mem_reportedFrom hs).2
    rwa [Nat.zero_add] at hwithin
  apart _ := pairwise_reportedFrom 0
  pass_eq text := deleteFrom_eq_eraseFrom (Nat.lt_succ_self text.length) 0 []

section Deletes

variable {pass : List Char → List Char} {reported : List Char → List Span}

/-- A pass that deletes what it reports adds nothing. -/
theorem Deletes.sublist (h : Deletes pass reported) (text : List Char) :
    (pass text).Sublist text := by
  rw [h.pass_eq text]
  exact erase_sublist (reported text) text

/-- A pass leaves a text alone exactly if every match that it reports is empty. -/
theorem Deletes.eq_self_iff (h : Deletes pass reported) (text : List Char) :
    pass text = text ↔ ∀ s ∈ reported text, s.start = s.stop := by
  rw [h.pass_eq text]
  exact erase_eq_self_iff (h.within text)

end Deletes

end Turnstile.Regex
