import Mathlib.Data.List.Chain
import Turnstile.Proofs.Process.Searching
import Turnstile.Service.Readiness

/-!
# Waiting for a service

A monitor polls its criteria until there is a verdict. It searches only what is new in the output,
from an offset that a search in vain leaves behind (`Capture.find`), and it remembers that the
keyword was found. `Wait` is a monitor with the state that it shows to others.

* `find_eq_at_iff`: a search finds the keyword exactly if it occurs after the offset.
* `skips_of_find`: the offset that it leaves behind skips no occurrence, however the output grows.
* `poll_tracks`: one poll decides as if all of the output were searched, and remembers what it must.

**Theorem** (`Wait.run_eq`): over output that grows in any way between the polls, a wait ends with
the verdict of the first poll at which a search of all the output gives one, and shows that it waits
until then. A wait breaks off as it begins exactly if the clock cannot show its deadline
(`Instant.CanShow`), and then shows for ever that it waits.
-/

namespace Turnstile

/-! ### Searching output that grows -/

/-- What occurs in a text occurs at an offset. -/
theorem infix_iff_exists_prefix_drop {needle bytes : Bytes} :
    needle <:+: bytes ↔ ∃ i, needle <+: bytes.drop i := by
  constructor
  · rintro ⟨before, after, rfl⟩
    refine ⟨before.length, after, ?_⟩
    rw [List.append_assoc, List.drop_left]
  · rintro ⟨i, hprefix⟩
    exact hprefix.isInfix.trans (List.drop_suffix i bytes).isInfix

/-- However the octets go on, a sequence does not occur in them before an offset. -/
def Skips (needle : Bytes) (offset : Nat) (bytes : Bytes) : Prop :=
  ∀ grown, bytes <+: grown → ∀ i, needle <+: grown.drop i → offset ≤ i

/-- Nothing is skipped at the start. -/
theorem skips_zero (needle bytes : Bytes) : Skips needle 0 bytes :=
  fun _ _ i _ => Nat.zero_le i

namespace Capture

variable {c : Capture} {needle : Bytes} {start : Nat}

/-- **A search finds a sequence exactly if it occurs after the offset.** -/
theorem find_eq_at_iff :
    (∃ offset, c.find needle start = .at offset) ↔
      needle <:+: c.bytes.drop (min start c.bytes.length) := by
  simp only [infix_iff_exists_prefix_drop, List.drop_drop]
  constructor
  · rintro ⟨offset, hfind⟩
    have hfirst := find_eq_at_iff_isFirst.mp hfind
    obtain ⟨i, rfl⟩ := Nat.exists_eq_add_of_le hfirst.start_le
    exact ⟨i, hfirst.occurs⟩
  · rintro ⟨i, hi⟩
    cases hfind : c.find needle start with
    | «at» offset => exact ⟨offset, rfl⟩
    | resume offset => exact absurd hi ((find_eq_resume hfind).2 _ (Nat.le_add_right _ i))

/-- If no occurrence is skipped, a search from the offset finds what a search of all finds. -/
theorem find_eq_at_iff_of_skips (h : Skips needle start c.bytes) :
    (∃ offset, c.find needle start = .at offset) ↔ needle <:+: c.bytes := by
  rw [find_eq_at_iff]
  constructor
  · intro hinfix
    exact hinfix.trans (List.drop_suffix _ _).isInfix
  · intro hinfix
    obtain ⟨i, hi⟩ := infix_iff_exists_prefix_drop.mp hinfix
    have hstart := h c.bytes (List.prefix_refl _) i hi
    refine infix_iff_exists_prefix_drop.mpr ⟨i - min start c.bytes.length, ?_⟩
    rw [List.drop_drop, Nat.add_sub_cancel' (by omega)]
    exact hi

/-- **The offset that a search in vain leaves behind skips no occurrence**, not even one that
straddles what was there and what is still to come. -/
theorem skips_of_find {offset : Nat} (h : Skips needle start c.bytes)
    (hfind : c.find needle start = .resume offset) : Skips needle offset c.bytes := by
  intro grown hgrown i hi
  have hstart := h grown hgrown i hi
  exact le_of_find_eq_resume hfind hgrown ((Nat.min_le_left _ _).trans hstart) hi

end Capture

/-! ### What a poll should decide -/

namespace ReadinessCriteria

/-- The keyword, if there is one, occurs in the octets. -/
def KeywordIn (c : ReadinessCriteria) (bytes : Bytes) : Prop :=
  ∀ keyword ∈ c.keyword, Utf8.encode keyword <:+: bytes

instance (c : ReadinessCriteria) (bytes : Bytes) : Decidable (c.KeywordIn bytes) :=
  match h : c.keyword with
  | none => .isTrue fun keyword hmem => by simp [h] at hmem
  | some keyword =>
    decidable_of_iff (Utf8.encode keyword <:+: bytes) (by simp [KeywordIn, h])

/-- The criteria hold: the keyword occurs in all the output, and the port accepts a connection. -/
def HoldsAt (c : ReadinessCriteria) (s : Sighting) : Prop :=
  c.KeywordIn s.output.bytes ∧ (c.port.isSome → s.portOpen)

instance (c : ReadinessCriteria) (s : Sighting) : Decidable (c.HoldsAt s) :=
  inferInstanceAs (Decidable (_ ∧ _))

/-- The verdict on what is seen, with all the output searched. -/
def verdict? (c : ReadinessCriteria) (deadline : Instant) (s : Sighting) : Option Readiness :=
  if c.HoldsAt s then some .ready
  else if s.isRunning = false then some .exited
  else if deadline.nanos ≤ s.now.nanos then some .timedOut
  else none

/-- A keyword that was seen stays in output that grows. -/
theorem keywordIn_mono {c : ReadinessCriteria} {bytes grown : Bytes} (h : c.KeywordIn bytes)
    (hgrown : bytes <+: grown) : c.KeywordIn grown :=
  fun keyword hkeyword => (h keyword hkeyword).trans hgrown.isInfix

end ReadinessCriteria

/-! ### What a monitor remembers -/

namespace Monitor

/-- A monitor of criteria that searched the octets so far: it knows whether the keyword occurs in
them, and if it does not, where it can go on. -/
structure Tracks (m : Monitor) (c : ReadinessCriteria) (deadline : Instant) (bytes : Bytes) :
    Prop where
  keyword : m.keyword = c.keyword.map Utf8.encode
  port : m.port = c.port
  deadline : m.deadline = deadline
  seen : m.keywordSeen = true → c.KeywordIn bytes
  skips : m.keywordSeen = false →
    ∃ keyword, c.keyword = some keyword ∧ Skips (Utf8.encode keyword) m.scanned bytes

variable {m : Monitor} {c : ReadinessCriteria} {deadline now : Instant} {bytes : Bytes}

/-- A monitor that was started has seen nothing. -/
theorem start?_tracks (h : start? c now = some m) : m.Tracks c m.deadline [] := by
  unfold start? at h
  obtain ⟨deadline, -, rfl⟩ := Option.map_eq_some_iff.mp h
  refine ⟨rfl, rfl, rfl, fun hseen keyword hkeyword => ?_, fun hseen => ?_⟩
  · rw [Option.mem_def.mp hkeyword] at hseen
    cases hseen
  · cases hkeyword : c.keyword with
    | none => simp [hkeyword] at hseen
    | some keyword => exact ⟨keyword, rfl, skips_zero _ _⟩

/-- **A search of what is new tells what a search of all the output would tell.** -/
theorem scan_tracks {output : Capture} (h : m.Tracks c deadline bytes)
    (hgrown : bytes <+: output.bytes) :
    (m.scan output).Tracks c deadline output.bytes ∧
      ((m.scan output).keywordSeen = true ↔ c.KeywordIn output.bytes) := by
  cases hseen : m.keywordSeen with
  | true =>
      have hin := ReadinessCriteria.keywordIn_mono (h.seen hseen) hgrown
      have hscan : m.scan output = m := by simp [scan, hseen]
      rw [hscan]
      refine ⟨⟨h.keyword, h.port, h.deadline, fun _ => hin, fun hnot => ?_⟩,
        iff_of_true hseen hin⟩
      rw [hseen] at hnot
      cases hnot
  | false =>
      obtain ⟨keyword, hkeyword, hskips⟩ := h.skips hseen
      have hskips : Skips (Utf8.encode keyword) m.scanned output.bytes :=
        fun grown hgrows => hskips grown (hgrown.trans hgrows)
      have hin : c.KeywordIn output.bytes ↔ Utf8.encode keyword <:+: output.bytes := by
        simp [ReadinessCriteria.KeywordIn, hkeyword]
      rw [hin, ← Capture.find_eq_at_iff_of_skips hskips]
      have hm : m.keyword = some (Utf8.encode keyword) := by rw [h.keyword, hkeyword]; rfl
      cases hfind : output.find (Utf8.encode keyword) m.scanned with
      | «at» offset =>
          have hscan : m.scan output = { m with keywordSeen := true } := by
            simp [scan, hseen, hm, hfind]
          rw [hscan]
          refine ⟨⟨h.keyword, h.port, h.deadline, fun _ => ?_, fun hnot => by cases hnot⟩,
            iff_of_true rfl ⟨offset, rfl⟩⟩
          rw [hin, ← Capture.find_eq_at_iff_of_skips hskips]
          exact ⟨offset, hfind⟩
      | resume offset =>
          have hscan : m.scan output = { m with scanned := offset } := by
            simp [scan, hseen, hm, hfind]
          rw [hscan]
          refine ⟨⟨h.keyword, h.port, h.deadline, fun hyes => ?_, fun _ => ⟨keyword, hkeyword, ?_⟩⟩,
            iff_of_false ?_ ?_⟩
          · have hyes : m.keywordSeen = true := hyes
            rw [hseen] at hyes
            cases hyes
          · exact Capture.skips_of_find hskips hfind
          · simpa using hseen
          · rintro ⟨_, hat⟩
            cases hat

/-- A look keeps the port. -/
theorem poll_port (m : Monitor) (s : Sighting) : (m.poll s).1.port = m.port := by
  unfold poll scan
  dsimp only
  split
  · rfl
  · split
    · rfl
    · split <;> rfl

/-- **One poll decides as if all of the output were searched.** -/
theorem poll_tracks {s : Sighting} (h : m.Tracks c deadline bytes)
    (hgrown : bytes <+: s.output.bytes) :
    (m.poll s).1.Tracks c deadline s.output.bytes ∧
      ((m.poll s).1.keywordSeen = true ↔ c.KeywordIn s.output.bytes) ∧
      (m.poll s).2 = c.verdict? deadline s := by
  obtain ⟨htracks, hseen⟩ := scan_tracks h hgrown
  refine ⟨htracks, hseen, ?_⟩
  have hholds : ((m.scan s.output).keywordSeen && ((m.scan s.output).port.isNone || s.portOpen)) =
      decide (c.HoldsAt s) := by
    rw [htracks.port, Bool.eq_iff_iff, Bool.and_eq_true, hseen, decide_eq_true_eq]
    unfold ReadinessCriteria.HoldsAt
    cases c.port <;> simp
  unfold poll verdict? ReadinessCriteria.verdict?
  dsimp only
  rw [hholds, htracks.deadline]
  simp

end Monitor

/-! ### Deadlines -/

/-- True if the clock can show the instant a span later. -/
def Instant.CanShow (i : Instant) (t : Timespan) : Prop :=
  i.nanos + t.nanos < Word.half * Timespan.nanosPerSecond

instance (i : Instant) (t : Timespan) : Decidable (i.CanShow t) :=
  inferInstanceAs (Decidable (i.nanos + t.nanos < Word.half * Timespan.nanosPerSecond))

namespace Instant

variable {i : Instant} {t : Timespan}

/-- A deadline that the clock can show is the sum. -/
theorem plus?_of_canShow (h : i.CanShow t) : i.plus? t = some ⟨i.nanos + t.nanos⟩ := by
  unfold CanShow Word.half Timespan.nanosPerSecond at h
  have hseconds : (i.nanos + t.nanos) / Timespan.nanosPerSecond ≤ maxSeconds := by
    unfold maxSeconds Word.half Timespan.nanosPerSecond
    omega
  unfold plus?
  exact if_pos hseconds

/-- There is no other deadline. -/
theorem plus?_of_not_canShow (h : ¬ i.CanShow t) : i.plus? t = none := by
  unfold CanShow Word.half Timespan.nanosPerSecond at h
  have hseconds : ¬ (i.nanos + t.nanos) / Timespan.nanosPerSecond ≤ maxSeconds := by
    unfold maxSeconds Word.half Timespan.nanosPerSecond
    omega
  unfold plus?
  exact if_neg hseconds

end Instant

/-- A monitor starts exactly if the clock can show its deadline. -/
theorem Monitor.start?_isSome_iff {c : ReadinessCriteria} {now : Instant} :
    (start? c now).isSome = true ↔ now.CanShow c.deadline := by
  unfold start?
  by_cases h : now.CanShow c.deadline
  · simp [Instant.plus?_of_canShow h, h]
  · simp [Instant.plus?_of_not_canShow h, h]

/-- No monitor starts for a deadline that the clock cannot show. -/
theorem Monitor.start?_eq_none_iff {c : ReadinessCriteria} {now : Instant} :
    start? c now = none ↔ ¬ now.CanShow c.deadline := by
  rw [← start?_isSome_iff, Bool.not_eq_true, Option.isSome_eq_false_iff, Option.isNone_iff_eq_none]

/-! ### A whole wait -/

/-- A state of a monitor can be followed by the same one, and otherwise only by the next: at first
nobody waits, then somebody does, and then there is a verdict. -/
inductive Readiness.MovesTo : Readiness → Readiness → Prop
  | stay (r : Readiness) : MovesTo r r
  | begin : MovesTo .spawned .waiting
  | resolve {r : Readiness} : r.isTerminal = true → MovesTo .waiting r

/-- A monitor, with the state that it shows to others. -/
inductive Wait where
  /-- Nobody waits for it yet. -/
  | unbegun
  /-- There is no deadline to wait for. -/
  | brokenOff
  /-- Only time counts. -/
  | sleeping (deadline : Instant)
  /-- Its criteria are polled. -/
  | polling (m : Monitor)
  | resolved (verdict : Readiness)

namespace Wait

/-- The state that a monitor shows. -/
def state : Wait → Readiness
  | .unbegun => .spawned
  | .brokenOff | .sleeping _ | .polling _ => .waiting
  | .resolved verdict => verdict

/-- The wait that begins at an instant. It breaks off if the clock cannot show its deadline. -/
def start (c : ReadinessCriteria) (now : Instant) : Wait :=
  match Monitor.start? c now with
  | some m => if c.isFixedDelay then .sleeping m.deadline else .polling m
  | none => .brokenOff

/-- One poll, unless there is a verdict. -/
def poll (w : Wait) (s : Sighting) : Wait :=
  match w with
  | .unbegun => .unbegun
  | .brokenOff => .brokenOff
  | .sleeping deadline =>
    if s.isRunning = false then .resolved .exited
    else if deadline.nanos ≤ s.now.nanos then .resolved .ready
    else .sleeping deadline
  | .polling m =>
    match m.poll s with
    | (_, some verdict) => .resolved verdict
    | (m, none) => .polling m
  | .resolved verdict => .resolved verdict

/-- A monitor that is waited for from an instant on, after a number of polls. -/
def run (c : ReadinessCriteria) (now : Instant) (sightings : List Sighting) : Wait :=
  sightings.foldl poll (start c now)

/-- The states that a monitor shows, from before the wait to the last poll. -/
def states (c : ReadinessCriteria) (now : Instant) (sightings : List Sighting) : List Readiness :=
  Wait.unbegun.state :: (sightings.scanl poll (start c now)).map state

/-- A wait breaks off exactly if the clock cannot show its deadline. -/
theorem start_eq_brokenOff_iff {c : ReadinessCriteria} {now : Instant} :
    start c now = .brokenOff ↔ ¬ now.CanShow c.deadline := by
  rw [← Monitor.start?_eq_none_iff]
  unfold start
  cases Monitor.start? c now with
  | none => simp
  | some m => cases c.isFixedDelay <;> simp

/-- A verdict is final. -/
theorem isTerminal_of_poll {m m' : Monitor} {s : Sighting} {verdict : Readiness}
    (h : m.poll s = (m', some verdict)) : verdict.isTerminal = true := by
  have hverdict : (m.poll s).2 = some verdict := by rw [h]
  unfold Monitor.poll Monitor.verdict? at hverdict
  dsimp only at hverdict
  split_ifs at hverdict <;> cases hverdict <;> rfl

/-- A wait begins by waiting. -/
theorem movesTo_start (c : ReadinessCriteria) (now : Instant) :
    Readiness.MovesTo Wait.unbegun.state (start c now).state := by
  unfold start
  cases Monitor.start? c now with
  | none => exact .begin
  | some m =>
      dsimp only
      split_ifs
      · exact .begin
      · exact .begin

/-- A look moves the state forward or leaves it. -/
theorem movesTo_poll (w : Wait) (s : Sighting) : Readiness.MovesTo w.state (w.poll s).state := by
  cases w with
  | unbegun => exact .stay _
  | brokenOff => exact .stay _
  | resolved verdict => exact .stay _
  | sleeping deadline =>
      unfold poll
      dsimp only
      split_ifs
      · exact .resolve rfl
      · exact .resolve rfl
      · exact .stay _
  | polling m =>
      unfold poll
      rcases hpoll : m.poll s with ⟨m', _ | verdict⟩
      · simp only [hpoll]
        exact .stay _
      · simp only [hpoll]
        exact .resolve (isTerminal_of_poll hpoll)

/-- **The states of a wait only move forward.** -/
theorem isChain_states (c : ReadinessCriteria) (now : Instant) (sightings : List Sighting) :
    (states c now sightings).IsChain Readiness.MovesTo := by
  have hpolls {r : Readiness} {w : Wait} (h : r.MovesTo w.state) :
      (r :: (sightings.scanl poll w).map state).IsChain Readiness.MovesTo := by
    induction sightings generalizing r w with
    | nil => exact .cons_cons h (.singleton _)
    | cons s sightings ih =>
        rw [List.scanl_cons, List.map_cons]
        exact .cons_cons h (ih (movesTo_poll w s))
  exact hpolls (movesTo_start c now)

/-- **Polls decide as if all of the output were searched at each of them**, and a keyword that was
seen stays seen. -/
theorem foldl_poll {m : Monitor} {c : ReadinessCriteria} {deadline : Instant} {bytes : Bytes}
    {sightings : List Sighting} (h : m.Tracks c deadline bytes)
    (hgrows : (bytes :: sightings.map (·.output.bytes)).IsChain (· <+: ·)) :
    (∃ m', sightings.foldl poll (.polling m) = .polling m' ∧
        sightings.findSome? (c.verdict? deadline) = none ∧
        (m'.keywordSeen = true ↔
          m.keywordSeen = true ∨ ∃ s ∈ sightings, c.KeywordIn s.output.bytes)) ∨
      ∃ verdict, sightings.foldl poll (.polling m) = .resolved verdict ∧
        sightings.findSome? (c.verdict? deadline) = some verdict := by
  induction sightings generalizing m bytes with
  | nil => exact .inl ⟨m, rfl, rfl, by simp⟩
  | cons s sightings ih =>
      obtain ⟨hgrown, hrest⟩ := List.isChain_cons_cons.mp hgrows
      obtain ⟨htracks, hseen, hverdict⟩ := Monitor.poll_tracks h hgrown
      rcases hpoll : m.poll s with ⟨m₁, _ | verdict⟩
      · rw [hpoll] at htracks hseen hverdict
        have hstep : (Wait.polling m).poll s = .polling m₁ := by simp only [poll, hpoll]
        have hfind : (s :: sightings).findSome? (c.verdict? deadline) =
            sightings.findSome? (c.verdict? deadline) := by
          rw [List.findSome?_cons, ← hverdict]
        rw [List.foldl_cons, hstep, hfind]
        rcases ih htracks hrest with ⟨m', hrun, hnone, hkeyword⟩ | hover
        · refine .inl ⟨m', hrun, hnone, hkeyword.trans ?_⟩
          rw [hseen]
          constructor
          · rintro (hnow | ⟨s', hs', hlater⟩)
            · exact .inr ⟨s, List.mem_cons_self, hnow⟩
            · exact .inr ⟨s', List.mem_cons_of_mem _ hs', hlater⟩
          · rintro (hbefore | ⟨s', hs', hlater⟩)
            · exact .inl (ReadinessCriteria.keywordIn_mono (h.seen hbefore) hgrown)
            · rcases List.mem_cons.mp hs' with rfl | hs'
              · exact .inl hlater
              · exact .inr ⟨s', hs', hlater⟩
        · exact .inr hover
      · rw [hpoll] at hverdict
        have hstep : (Wait.polling m).poll s = .resolved verdict := by simp only [poll, hpoll]
        have hstays (rest : List Sighting) :
            rest.foldl poll (.resolved verdict) = .resolved verdict := by
          induction rest with
          | nil => rfl
          | cons s rest ih => exact ih
        refine .inr ⟨verdict, ?_, ?_⟩
        · rw [List.foldl_cons, hstep, hstays]
        · rw [List.findSome?_cons, ← hverdict]

/-- **A wait ends with the verdict of the first poll at which a search of all the output gives
one**, however the output grows between the polls, and it goes on while there is none. A keyword
that occurred in the output of a poll is remembered. The monitor shows that nobody waits, then that
somebody does, and then the verdict. -/
theorem run_eq {c : ReadinessCriteria} (hc : c.isFixedDelay = false) {now : Instant} {m : Monitor}
    (hm : Monitor.start? c now = some m) {sightings : List Sighting}
    (hgrows : (sightings.map (·.output.bytes)).IsChain (· <+: ·)) :
    (∀ verdict, run c now sightings = .resolved verdict ↔
      sightings.findSome? (c.verdict? m.deadline) = some verdict) ∧
    (sightings.findSome? (c.verdict? m.deadline) = none →
      ∃ m', run c now sightings = .polling m' ∧
        (m'.keywordSeen = true ↔
          c.keyword = none ∨ ∃ s ∈ sightings, c.KeywordIn s.output.bytes)) ∧
    (states c now sightings).IsChain Readiness.MovesTo := by
  have hstart : start c now = .polling m := by
    unfold start
    rw [hm]
    simp [hc]
  have hseen : m.keywordSeen = true ↔ c.keyword = none := by
    obtain ⟨deadline, -, rfl⟩ := Option.map_eq_some_iff.mp hm
    simp
  have hchain : ([] :: sightings.map (·.output.bytes)).IsChain (· <+: ·) := by
    cases sightings with
    | nil => exact .singleton _
    | cons s sightings => exact .cons_cons List.nil_prefix hgrows
  unfold run
  rw [hstart, ← hseen]
  rcases foldl_poll (Monitor.start?_tracks hm) hchain with ⟨m', hrun, hnone, hkeyword⟩ |
    ⟨verdict, hrun, hsome⟩
  · rw [hrun, hnone]
    exact ⟨fun verdict => by simp, fun _ => ⟨m', rfl, hkeyword⟩, isChain_states c now sightings⟩
  · rw [hrun, hsome]
    exact ⟨fun verdict' => by simp, fun hnot => (Option.some_ne_none _ hnot).elim,
      isChain_states c now sightings⟩

/-- A service that is ready once it wrote a word. -/
def upCriteria : ReadinessCriteria where
  deadline := .ofWholeSeconds 5
  keyword := some "up"

/-- A poll one second later, with chunks of output. -/
def upSighting (chunks : List Bytes) : Sighting where
  output := { chunks }
  portOpen := false
  isRunning := true
  now := ⟨1000000000⟩

/-- A word that is written in two parts, each of which a poll sees. -/
def upSightings : List Sighting :=
  [upSighting [Utf8.encode "start u"], upSighting [Utf8.encode "p\n", Utf8.encode "start u"]]

/-- The word is found. -/
theorem run_split_keyword :
    upCriteria.isFixedDelay = false ∧ (Monitor.start? upCriteria ⟨0⟩).isSome ∧
      (upSightings.map (·.output.bytes)).IsChain (· <+: ·) ∧
      Wait.run upCriteria ⟨0⟩ upSightings = .resolved .ready := by
  have hstart : Monitor.start? upCriteria ⟨0⟩ = some {
      keyword := some (Utf8.encode "up")
      port := none
      deadline := ⟨5000000000⟩
      keywordSeen := false } := by
    decide +kernel
  have hgrows : (upSightings.map (·.output.bytes)).IsChain (· <+: ·) := by decide +kernel
  obtain ⟨hover, -, -⟩ := run_eq rfl hstart hgrows
  exact ⟨rfl, by rw [hstart]; rfl, hgrows, (hover .ready).mpr (by decide +kernel)⟩

end Wait

end Turnstile
