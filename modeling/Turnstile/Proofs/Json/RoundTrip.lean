import Mathlib.Data.List.TakeWhile
import Mathlib.Tactic.IntervalCases
import Mathlib.Tactic.SplitIfs
import Turnstile.Json

/-!
# The text of a value and back

A value is *plain* (`Json.Plain`) if its numbers are integers of 64 bits, with or without sign.
Strings are any text.

**Theorem** (`Json.read?_compact`): the compact text of a plain value is read as that value.

**Theorem** (`Json.Plain.le_toNat`): it holds no control character, so it stays on one line.

A value in the middle of a text is read as itself if what follows does not go on with a numeral, and
if the fuel is twice the length of its text (`Json.ReadsBack`).
-/

namespace Turnstile.Json

/-! ### Strings -/

/-- The digits of a control character are read as its number. -/
theorem readUnit?_hexPair {n : Nat} (h : n < 0x20) (rest : List Char) :
    readUnit? ('0' :: '0' :: (hexPair n ++ rest)) = some (n, rest) := by
  interval_cases n <;> rfl

/-- The escape of a control character is read as that character. -/
theorem readEscape?_hexPair {c : Char} (h : c.toNat < 0x20) (rest : List Char) :
    readEscape? ('u' :: '0' :: '0' :: (hexPair c.toNat ++ rest)) = some (c, rest) := by
  rw [readEscape?, readUnit?_hexPair h]
  simp only [Option.bind_eq_bind, Option.bind_some]
  rw [if_neg (by omega), if_neg (by omega), Char.ofNat_toNat]
  rfl

/-- What stands for a character is read as that character. -/
theorem readString?_escapeChar (c : Char) (fuel : Nat) (acc rest : List Char) :
    readString? (fuel + 1) acc (escapeChar c ++ rest) = readString? fuel (c :: acc) rest := by
  unfold escapeChar
  split_ifs with hquote hbackslash hline hreturn htab hback hfeed hcontrol
  -- the characters with an escape of their own
  · subst hquote; rfl
  · subst hbackslash; rfl
  · subst hline; rfl
  · subst hreturn; rfl
  · subst htab; rfl
  · subst hback; rfl
  · subst hfeed; rfl
  -- the other control characters
  · have hescape := readEscape?_hexPair hcontrol rest
    simp only [List.cons_append, List.nil_append]
    rw [readString?, hescape]
    rfl
  -- the characters that stand for themselves
  · rw [List.singleton_append, readString?]
    · rw [if_neg hcontrol]
    · exact hquote
    · exact hbackslash

/-- Every character stands for itself or has an escape. -/
theorem escapeChar_ne_nil (c : Char) : escapeChar c ≠ [] := by
  unfold escapeChar
  split_ifs <;> simp

/-- Characters up to the closing quote are read one after another, behind those read before. -/
theorem readString?_quote (cs acc rest : List Char) {fuel : Nat}
    (h : (cs.flatMap escapeChar).length < fuel) :
    readString? fuel acc (cs.flatMap escapeChar ++ '"' :: rest) =
      some (String.ofList (acc.reverse ++ cs), rest) := by
  induction cs generalizing fuel acc with
  | nil =>
      cases fuel with
      | zero => simp at h
      | succ fuel => simp [readString?]
  | cons c cs ih =>
      cases fuel with
      | zero => simp at h
      | succ fuel =>
          have hpos := List.length_pos_iff.mpr (escapeChar_ne_nil c)
          rw [List.flatMap_cons, List.length_append] at h
          rw [List.flatMap_cons, List.append_assoc, readString?_escapeChar, ih _ (by omega)]
          simp

/-- The rest of a string in quotes is read as that string. -/
theorem readString?_text (s : String) {fuel : Nat} (h : (s.toList.flatMap escapeChar).length < fuel)
    (rest : List Char) :
    readString? fuel [] (s.toList.flatMap escapeChar ++ '"' :: rest) = some (s, rest) := by
  rw [readString?_quote _ _ _ h, List.reverse_nil, List.nil_append, String.ofList_toList]

/-- A string in quotes, as its characters. -/
theorem toList_quote (s : String) :
    (quote s).toList = '"' :: (s.toList.flatMap escapeChar ++ ['"']) := by
  rw [quote, String.toList_ofList, quoteChars]

/-- The digits of a number are no control characters. -/
theorem le_toNat_of_mem_hexPair {n : Nat} {d : Char} (h : d ∈ hexPair n) : 0x20 ≤ d.toNat := by
  have hdigit : ∀ n < 16, 0x20 ≤ (Nat.digitChar n).toNat := by decide
  simp only [hexPair, List.mem_cons, List.not_mem_nil, or_false] at h
  rcases h with rfl | rfl
  all_goals exact hdigit _ (Nat.mod_lt _ (by decide))

/-- No character of an escape is a control character. -/
theorem le_toNat_of_mem_escapeChar {c d : Char} (h : d ∈ escapeChar c) : 0x20 ≤ d.toNat := by
  unfold escapeChar at h
  split_ifs at h with hquote hbackslash hline hreturn htab hback hfeed hcontrol
  case neg =>
    rw [List.mem_singleton.mp h]
    omega
  on_goal 8 =>
    rcases List.mem_append.mp h with hprefix | hdigits
    · simp only [List.mem_cons, List.not_mem_nil, or_false] at hprefix
      rcases hprefix with rfl | rfl | rfl | rfl <;> decide
    · exact le_toNat_of_mem_hexPair hdigits
  -- the characters with an escape of their own
  all_goals
    simp only [List.mem_cons, List.not_mem_nil, or_false] at h
    rcases h with rfl | rfl <;> decide

/-! ### Numerals -/

/-- A number is written in digits only. -/
theorem isDigit_of_mem_toDigits {n : Nat} {c : Char} (h : c ∈ Nat.toDigits 10 n) :
    isDigit c = true := by
  have hc : c.isDigit = true := Nat.isDigit_of_mem_toDigits (by decide) (by decide) h
  simpa [isDigit, Char.isDigit, Char.le_def] using hc

/-- The digits of a number are read as that number. -/
theorem natOfDigits_toDigits (n : Nat) : natOfDigits (Nat.toDigits 10 n) = n := by
  have h : natOfDigits = fun ds => Nat.ofDigitChars 10 ds 0 := by
    funext ds
    unfold natOfDigits Nat.ofDigitChars digitValue
    simp only [Nat.mul_comm]
  rw [h]
  exact Nat.ofDigitChars_ten_toDigits

/-- The digits of a number that is not zero begin with another digit. -/
theorem head?_toDigits_ne {n : Nat} (h : 0 < n) : (Nat.toDigits 10 n).head? ≠ some '0' := by
  induction n using Nat.strong_induction_on with
  | _ n ih =>
      by_cases hn : n < 10
      · rw [Nat.toDigits_of_lt_base hn]
        interval_cases n <;> decide
      · have hfirst := ih (n / 10) (by omega) (by omega)
        rw [Nat.toDigits_of_base_le (by decide) (by omega), List.head?_append,
          Option.or_of_isSome (by simp [Nat.toDigits_ne_nil])]
        exact hfirst

/-- Digits are no numeral with a needless zero. -/
theorem wellFormed_toDigits (n : Nat) :
    ((Nat.toDigits 10 n).isEmpty ||
      (decide (1 < (Nat.toDigits 10 n).length) && decide ((Nat.toDigits 10 n).head? = some '0'))) =
        false := by
  have hne : (Nat.toDigits 10 n) ≠ [] := Nat.toDigits_ne_nil
  rcases Nat.eq_zero_or_pos n with rfl | hpos
  · decide
  · simp [hne, head?_toDigits_ne hpos]

/-- A numeral is read to its end. -/
theorem takeWhile_isDigit_toDigits (n : Nat) :
    (Nat.toDigits 10 n).takeWhile isDigit = Nat.toDigits 10 n :=
  List.takeWhile_eq_self_iff.mpr fun _ hc => isDigit_of_mem_toDigits hc

/-- Nothing is left behind the digits of a number. -/
theorem dropWhile_isDigit_toDigits (n : Nat) : (Nat.toDigits 10 n).dropWhile isDigit = [] :=
  List.dropWhile_eq_nil_iff.mpr fun _ hc => isDigit_of_mem_toDigits hc

/-- The characters of an integer. -/
def integerChars : Int → List Char
  | .ofNat n => Nat.toDigits 10 n
  | .negSucc n => '-' :: Nat.toDigits 10 (n + 1)

/-- An integer is written as `integerChars` says. -/
theorem toList_toString_int (n : Int) : (toString n).toList = integerChars n := by
  cases n with
  | ofNat n => simp [integerChars, Nat.repr_eq_ofList_toDigits, Int.toString_eq_repr, Int.repr]
  | negSucc n => simp [integerChars, Int.toString_eq_repr, Int.repr, Nat.repr_eq_ofList_toDigits]

/-- An integer of 64 bits is read as that integer. -/
theorem readNumeral?_integerChars {n : Int} (h : (Word.isSigned n || Word.isUnsigned n) = true) :
    readNumeral? (integerChars n) = some (.integer n) := by
  cases n with
  | ofNat n =>
      have hword : (Word.isSigned (n : Int) || Word.isUnsigned (n : Int)) = true := h
      rw [integerChars, readNumeral?]
      · simp [takeWhile_isDigit_toDigits, dropWhile_isDigit_toDigits, wellFormed_toDigits,
          natOfDigits_toDigits, hword]
      · intro rest hcs
        have hsign : isDigit '-' = true := isDigit_of_mem_toDigits (n := n) (by simp [hcs])
        exact absurd hsign (by decide)
  | negSucc n =>
      have hn : -((n + 1 : Nat) : Int) = Int.negSucc n := rfl
      rw [integerChars, readNumeral?]
      simp only [takeWhile_isDigit_toDigits, dropWhile_isDigit_toDigits, wellFormed_toDigits,
        natOfDigits_toDigits, List.isEmpty_nil, if_true, hn, h]
      rfl

/-- An integer is written in characters of numerals. -/
theorem isNumeralChar_of_mem_integerChars {n : Int} {c : Char} (h : c ∈ integerChars n) :
    isNumeralChar c = true := by
  unfold isNumeralChar
  cases n with
  | ofNat n => simp [isDigit_of_mem_toDigits h]
  | negSucc n =>
      rcases List.mem_cons.mp h with rfl | hdigit
      · decide
      · simp [isDigit_of_mem_toDigits hdigit]

/-- No integer has an empty text. -/
theorem integerChars_ne_nil (n : Int) : integerChars n ≠ [] := by
  cases n with
  | ofNat n => exact Nat.toDigits_ne_nil
  | negSucc n => exact List.cons_ne_nil _ _

/-! ### Tokens -/

/-- True of the characters that are dropped between tokens. -/
def isBlank (c : Char) : Bool := c = ' ' || c = '\n' || c = '\r' || c = '\t'

/-- Nothing is dropped in front of a character that is not blank. -/
theorem skipBlanks_cons {c : Char} (h : isBlank c = false) (cs : List Char) :
    skipBlanks (c :: cs) = c :: cs :=
  List.dropWhile_cons_of_neg (p := isBlank) (by simp [h])

/-- The text does not go on with a numeral. -/
def EndsNumeral (rest : List Char) : Prop := rest.head?.all (!isNumeralChar ·)

/-- A numeral ends in front of a character that no numeral has. -/
theorem endsNumeral_cons {c : Char} (h : isNumeralChar c = false) (cs : List Char) :
    EndsNumeral (c :: cs) := by
  simp [EndsNumeral, h]

/-- A numeral in the middle of a text is cut out whole. -/
theorem EndsNumeral.takeWhile_append {digits rest : List Char} (h : EndsNumeral rest)
    (hdigits : ∀ c ∈ digits, isNumeralChar c = true) :
    (digits ++ rest).takeWhile isNumeralChar = digits := by
  rw [List.takeWhile_append_of_pos hdigits]
  cases rest with
  | nil => simp
  | cons c rest =>
      have hc : isNumeralChar c = false := by simpa [EndsNumeral] using h
      simp [hc]

/-- What follows the numeral is left. -/
theorem EndsNumeral.dropWhile_append {digits rest : List Char} (h : EndsNumeral rest)
    (hdigits : ∀ c ∈ digits, isNumeralChar c = true) :
    (digits ++ rest).dropWhile isNumeralChar = rest := by
  rw [List.dropWhile_append_of_pos hdigits]
  cases rest with
  | nil => simp
  | cons c rest =>
      have hc : isNumeralChar c = false := by simpa [EndsNumeral] using h
      simp [hc]

/-- No numeral begins with a blank, so none is dropped in front of it. -/
theorem isBlank_of_isNumeralChar {c : Char} (h : isNumeralChar c = true) : isBlank c = false := by
  by_contra hblank
  rw [Bool.not_eq_false] at hblank
  simp only [isBlank, Bool.or_eq_true, decide_eq_true_eq] at hblank
  rcases hblank with ((rfl | rfl) | rfl) | rfl <;> exact absurd h (by decide)

/-- A value that begins like a numeral is a number. -/
theorem readValue?_numeral {c : Char} (hc : isNumeralChar c = true) (fuel : Nat) (cs : List Char) :
    readValue? (fuel + 1) (c :: cs) =
      (readNumeral? ((c :: cs).takeWhile isNumeralChar)).map fun n =>
        (.number n, (c :: cs).dropWhile isNumeralChar) := by
  rw [readValue?, skipBlanks_cons (isBlank_of_isNumeralChar hc)]
  -- no other value begins like a numeral
  split
  case h_7 => rfl
  all_goals
    next hcs =>
      cases hcs
      exact absurd hc (by decide)

/-! ### Values -/

/-- A value whose numbers are integers of 64 bits. -/
inductive Plain : Json → Prop where
  | null : Plain .null
  | bool (b : Bool) : Plain (.bool b)
  | integer {n : Int} (h : (Word.isSigned n || Word.isUnsigned n) = true) :
      Plain (.number (.integer n))
  | string (s : String) : Plain (.string s)
  | array {items : List Json} (h : ∀ v ∈ items, Plain v) : Plain (.array items)
  | object {members : List (String × Json)} (h : ∀ m ∈ members, Plain m.2) :
      Plain (.object members)

/-- The text of the value is read as the value, with fuel for twice its length. -/
def ReadsBack (v : Json) : Prop :=
  ∀ fuel rest, 2 * v.compact.toList.length ≤ fuel → EndsNumeral rest →
    readValue? fuel (v.compact.toList ++ rest) = some (v, rest)

/-- The text of the value begins a value. -/
def Opens (v : Json) : Prop :=
  ∃ c cs, v.compact.toList = c :: cs ∧ isBlank c = false ∧ c ≠ ']'

/-- Items are joined by commas. -/
theorem toList_compactItems_cons (v : Json) {items : List Json} (h : items ≠ []) :
    (compactItems (v :: items)).toList =
      v.compact.toList ++ ',' :: (compactItems items).toList := by
  cases items with
  | nil => exact absurd rfl h
  | cons w items => simp [compactItems]

/-- The only member has a colon behind its name, and no comma. -/
theorem toList_compactMembers_singleton (m : String × Json) :
    (compactMembers [m]).toList = (quote m.1).toList ++ ':' :: m.2.compact.toList := by
  simp [compactMembers]

/-- Members are joined by commas. -/
theorem toList_compactMembers_cons (m : String × Json) {members : List (String × Json)}
    (h : members ≠ []) :
    (compactMembers (m :: members)).toList =
      (quote m.1).toList ++ ':' ::
        (m.2.compact.toList ++ ',' :: (compactMembers members).toList) := by
  cases members with
  | nil => exact absurd rfl h
  | cons n members => simp [compactMembers]

/-- Items that are read back each are read back together, up to the closing bracket. -/
theorem readItems?_compactItems {items : List Json} (hne : items ≠ [])
    (h : ∀ v ∈ items, ReadsBack v) (acc : List Json) (rest : List Char) {fuel : Nat}
    (hfuel : 2 * (compactItems items).toList.length < fuel) :
    readItems? fuel acc ((compactItems items).toList ++ ']' :: rest) =
      some (acc.reverse ++ items, rest) := by
  induction items generalizing acc fuel with
  | nil => exact absurd rfl hne
  | cons v items ih =>
      obtain ⟨fuel, rfl⟩ : ∃ f, fuel = f + 1 := ⟨fuel - 1, by omega⟩
      have hv := h v List.mem_cons_self
      by_cases hitems : items = []
      · subst hitems
        rw [compactItems] at hfuel ⊢
        have hread := hv fuel (']' :: rest) (by omega) (endsNumeral_cons (by decide) _)
        rw [readItems?, hread]
        simp [skipBlanks_cons (c := ']') (by decide)]
      · rw [toList_compactItems_cons v hitems] at hfuel ⊢
        simp only [List.length_append, List.length_cons] at hfuel
        have hread := hv fuel (',' :: ((compactItems items).toList ++ ']' :: rest)) (by omega)
          (endsNumeral_cons (by decide) _)
        have hlength : 2 * (compactItems items).toList.length < fuel := by omega
        have hmore := ih hitems (fun w hw => h w (List.mem_cons_of_mem _ hw)) (v :: acc) hlength
        rw [List.append_assoc, List.cons_append, readItems?, hread]
        simp [skipBlanks_cons (c := ',') (by decide), hmore]

/-- A member is read up to the comma behind it, and the last one up to the closing brace. -/
theorem readMembers?_member {name : String} {v : Json} (hv : ReadsBack v) {fuel : Nat}
    (hfuel : 2 * ((quote name).toList.length + v.compact.toList.length) ≤ fuel)
    (acc : List (String × Json)) (rest : List Char) :
    readMembers? (fuel + 1) acc ((quote name).toList ++ ':' :: (v.compact.toList ++ ',' :: rest)) =
        readMembers? fuel ((name, v) :: acc) rest ∧
      readMembers? (fuel + 1) acc
          ((quote name).toList ++ ':' :: (v.compact.toList ++ '\x7d' :: rest)) =
        some (((name, v) :: acc).reverse, rest) := by
  rw [toList_quote] at hfuel ⊢
  simp only [List.length_append, List.length_cons, List.length_nil] at hfuel
  have hname : (name.toList.flatMap escapeChar).length < fuel := by omega
  have hcomma := hv fuel (',' :: rest) (by omega) (endsNumeral_cons (by decide) _)
  have hbrace := hv fuel ('\x7d' :: rest) (by omega) (endsNumeral_cons (by decide) _)
  simp only [List.cons_append, List.append_assoc, List.nil_append]
  constructor
  · rw [readMembers?, skipBlanks_cons (by decide)]
    simp [readString?_text name hname, skipBlanks_cons (c := ':') (by decide), hcomma,
      skipBlanks_cons (c := ',') (by decide)]
  · rw [readMembers?, skipBlanks_cons (by decide)]
    simp [readString?_text name hname, skipBlanks_cons (c := ':') (by decide), hbrace,
      skipBlanks_cons (c := '\x7d') (by decide)]

/-- Members whose values are read back are read back, up to the closing brace. -/
theorem readMembers?_compactMembers {members : List (String × Json)} (hne : members ≠ [])
    (h : ∀ m ∈ members, ReadsBack m.2) (acc : List (String × Json)) (rest : List Char) {fuel : Nat}
    (hfuel : 2 * (compactMembers members).toList.length < fuel) :
    readMembers? fuel acc ((compactMembers members).toList ++ '\x7d' :: rest) =
      some (acc.reverse ++ members, rest) := by
  induction members generalizing acc fuel with
  | nil => exact absurd rfl hne
  | cons m members ih =>
      obtain ⟨fuel, rfl⟩ : ∃ f, fuel = f + 1 := ⟨fuel - 1, by omega⟩
      have hm := h m List.mem_cons_self
      by_cases hmembers : members = []
      · subst hmembers
        rw [toList_compactMembers_singleton] at hfuel ⊢
        rw [List.length_append, List.length_cons] at hfuel
        rw [List.append_assoc, List.cons_append, (readMembers?_member hm (by omega) acc rest).2,
          List.reverse_cons]
      · rw [toList_compactMembers_cons _ hmembers] at hfuel ⊢
        simp only [List.length_append, List.length_cons] at hfuel
        have hlength : 2 * (compactMembers members).toList.length < fuel := by omega
        have hmore := ih hmembers (fun n hn => h n (List.mem_cons_of_mem _ hn)) (m :: acc) hlength
        simp only [List.append_assoc, List.cons_append]
        rw [(readMembers?_member hm (by omega) acc _).1, hmore, List.reverse_cons,
          List.append_assoc, List.singleton_append]

/-- The text of an array with items goes on with the first of them. -/
theorem compactItems_opens {items : List Json} (hne : items ≠ []) (h : ∀ v ∈ items, Opens v) :
    ∃ c cs, (compactItems items).toList = c :: cs ∧ isBlank c = false ∧ c ≠ ']' := by
  cases items with
  | nil => exact absurd rfl hne
  | cons v items =>
      obtain ⟨c, cs, hcs, hblank, hclose⟩ := h v List.mem_cons_self
      by_cases hitems : items = []
      · exact ⟨c, cs, by rw [hitems, compactItems, hcs], hblank, hclose⟩
      · exact ⟨c, _, by rw [toList_compactItems_cons v hitems, hcs, List.cons_append], hblank,
          hclose⟩

/-- The text of an object with members goes on with a name in quotes. -/
theorem compactMembers_opens {members : List (String × Json)} (hne : members ≠ []) :
    ∃ cs, (compactMembers members).toList = '"' :: cs := by
  cases members with
  | nil => exact absurd rfl hne
  | cons m members =>
      by_cases hmembers : members = []
      · exact ⟨_, by rw [hmembers, toList_compactMembers_singleton, toList_quote, List.cons_append]⟩
      · exact ⟨_, by rw [toList_compactMembers_cons m hmembers, toList_quote, List.cons_append]⟩

/-- An array, as its characters. -/
theorem toList_compact_array (items : List Json) :
    (Json.array items).compact.toList = '[' :: ((compactItems items).toList ++ [']']) := by
  simp [compact]

/-- An object, as its characters. -/
theorem toList_compact_object (members : List (String × Json)) :
    (Json.object members).compact.toList =
      '\x7b' :: ((compactMembers members).toList ++ ['\x7d']) := by
  simp [compact]

/-- A number that is an integer, as its characters. -/
theorem toList_compact_integer (n : Int) :
    (Json.number (.integer n)).compact.toList = integerChars n := by
  rw [compact, numberText, toList_toString_int]

/-- No plain value begins with a blank, nor like the end of an array. -/
theorem Plain.opens {v : Json} (h : v.Plain) : v.Opens := by
  cases h with
  | null => exact ⟨'n', _, rfl, by decide, by decide⟩
  | bool b =>
      cases b with
      | false => exact ⟨'f', _, rfl, by decide, by decide⟩
      | true => exact ⟨'t', _, rfl, by decide, by decide⟩
  | @integer n =>
      obtain ⟨c, cs, hcs⟩ := List.exists_cons_of_ne_nil (integerChars_ne_nil n)
      have hc : isNumeralChar c = true := isNumeralChar_of_mem_integerChars (n := n) (by simp [hcs])
      refine ⟨c, cs, by rw [toList_compact_integer, hcs], isBlank_of_isNumeralChar hc, ?_⟩
      rintro rfl
      exact absurd hc (by decide)
  | string s => exact ⟨'"', _, by rw [compact, toList_quote], by decide, by decide⟩
  | array => exact ⟨'[', _, toList_compact_array _, by decide, by decide⟩
  | object => exact ⟨'\x7b', _, toList_compact_object _, by decide, by decide⟩

/-- No value is read without fuel, and none has an empty text. -/
theorem Plain.exists_fuel {v : Json} (h : v.Plain) {fuel : Nat}
    (hfuel : 2 * v.compact.toList.length ≤ fuel) : ∃ f, fuel = f + 1 := by
  obtain ⟨c, cs, hcs, -⟩ := h.opens
  rw [hcs, List.length_cons] at hfuel
  exact ⟨fuel - 1, by omega⟩

/-- A plain value is read from its text, whatever follows. -/
theorem Plain.readsBack {v : Json} (h : v.Plain) : v.ReadsBack := by
  induction h with
  | null =>
      intro fuel rest hfuel _
      obtain ⟨fuel, rfl⟩ := Plain.null.exists_fuel hfuel
      rfl
  | bool b =>
      intro fuel rest hfuel _
      obtain ⟨fuel, rfl⟩ := (Plain.bool b).exists_fuel hfuel
      cases b <;> rfl
  | @integer n hn =>
      intro fuel rest hfuel hrest
      obtain ⟨fuel, rfl⟩ := (Plain.integer hn).exists_fuel hfuel
      obtain ⟨c, cs, hcs⟩ := List.exists_cons_of_ne_nil (integerChars_ne_nil n)
      have hnumeral : ∀ d ∈ integerChars n, isNumeralChar d = true :=
        fun d hd => isNumeralChar_of_mem_integerChars hd
      rw [toList_compact_integer, hcs, List.cons_append,
        readValue?_numeral (hnumeral c (by simp [hcs])), ← List.cons_append, ← hcs,
        hrest.takeWhile_append hnumeral, hrest.dropWhile_append hnumeral,
        readNumeral?_integerChars hn]
      rfl
  | string s =>
      intro fuel rest hfuel _
      obtain ⟨fuel, rfl⟩ := (Plain.string s).exists_fuel hfuel
      rw [compact, toList_quote] at hfuel ⊢
      simp only [List.length_append, List.length_cons, List.length_nil] at hfuel
      simp only [List.cons_append, List.append_assoc, List.nil_append]
      rw [readValue?, skipBlanks_cons (by decide)]
      have hlength : (s.toList.flatMap escapeChar).length < fuel := by omega
      simp [readString?_text s hlength]
  | @array items hplain ih =>
      intro fuel rest hfuel _
      obtain ⟨fuel, rfl⟩ := (Plain.array hplain).exists_fuel hfuel
      rw [toList_compact_array] at hfuel ⊢
      simp only [List.length_append, List.length_cons, List.length_nil] at hfuel
      simp only [List.cons_append, List.append_assoc, List.nil_append]
      by_cases hitems : items = []
      · subst hitems
        rfl
      · obtain ⟨c, cs, hcs, hblank, hclose⟩ :=
          compactItems_opens hitems fun v hv => (hplain v hv).opens
        have hlength : 2 * (compactItems items).toList.length < fuel := by omega
        have hread := readItems?_compactItems hitems ih [] rest hlength
        rw [hcs, List.cons_append] at hread ⊢
        rw [readValue?, skipBlanks_cons (by decide)]
        simp [skipBlanks_cons hblank, hclose, hread]
  | @object members hplain ih =>
      intro fuel rest hfuel _
      obtain ⟨fuel, rfl⟩ := (Plain.object hplain).exists_fuel hfuel
      rw [toList_compact_object] at hfuel ⊢
      simp only [List.length_append, List.length_cons, List.length_nil] at hfuel
      simp only [List.cons_append, List.append_assoc, List.nil_append]
      by_cases hmembers : members = []
      · subst hmembers
        rfl
      · obtain ⟨cs, hcs⟩ := compactMembers_opens hmembers
        have hlength : 2 * (compactMembers members).toList.length < fuel := by omega
        have hread := readMembers?_compactMembers hmembers ih [] rest hlength
        rw [hcs, List.cons_append] at hread ⊢
        rw [readValue?, skipBlanks_cons (by decide)]
        simp [skipBlanks_cons (c := '"') (by decide), hread]

/-- **The compact text of a plain value is read as that value.** -/
theorem read?_compact {v : Json} (h : v.Plain) : read? v.compact = some v := by
  have hread := h.readsBack (2 * v.compact.toList.length + 2) [] (by omega) (by simp [EndsNumeral])
  rw [List.append_nil] at hread
  rw [read?, hread]
  rfl

/-! ### One line -/

/-- An integer is written without control characters. -/
theorem le_toNat_of_mem_integerChars {n : Int} {c : Char} (h : c ∈ integerChars n) :
    0x20 ≤ c.toNat := by
  have hc := isNumeralChar_of_mem_integerChars h
  by_contra hlt
  have hchar : c = Char.ofNat c.toNat := (Char.ofNat_toNat c).symm
  generalize c.toNat = m at hlt hchar
  subst hchar
  interval_cases m <;> exact absurd hc (by decide)

/-- So is a string, whatever characters it has. -/
theorem le_toNat_of_mem_quote {s : String} {c : Char} (h : c ∈ (quote s).toList) :
    0x20 ≤ c.toNat := by
  rw [toList_quote, List.mem_cons, List.mem_append, List.mem_flatMap, List.mem_singleton] at h
  rcases h with rfl | ⟨d, -, hd⟩ | rfl
  · decide
  · exact le_toNat_of_mem_escapeChar hd
  · decide

/-- A character of the items is a comma or belongs to one of them. -/
theorem mem_compactItems {items : List Json} {c : Char} (h : c ∈ (compactItems items).toList) :
    c = ',' ∨ ∃ v ∈ items, c ∈ v.compact.toList := by
  induction items with
  | nil => simp [compactItems] at h
  | cons v items ih =>
      by_cases hitems : items = []
      · subst hitems
        exact .inr ⟨v, List.mem_cons_self, h⟩
      · rw [toList_compactItems_cons v hitems, List.mem_append, List.mem_cons] at h
        rcases h with hv | rfl | hmore
        · exact .inr ⟨v, List.mem_cons_self, hv⟩
        · exact .inl rfl
        · exact (ih hmore).imp_right fun ⟨w, hw, hc⟩ => ⟨w, List.mem_cons_of_mem _ hw, hc⟩

/-- A character of the members is between them or belongs to a name or a value. -/
theorem mem_compactMembers {members : List (String × Json)} {c : Char}
    (h : c ∈ (compactMembers members).toList) :
    c = ',' ∨ c = ':' ∨ ∃ m ∈ members, c ∈ (quote m.1).toList ∨ c ∈ m.2.compact.toList := by
  induction members with
  | nil => simp [compactMembers] at h
  | cons m members ih =>
      by_cases hmembers : members = []
      · subst hmembers
        rw [toList_compactMembers_singleton, List.mem_append, List.mem_cons] at h
        rcases h with hname | rfl | hv
        · exact .inr (.inr ⟨m, List.mem_cons_self, .inl hname⟩)
        · exact .inr (.inl rfl)
        · exact .inr (.inr ⟨m, List.mem_cons_self, .inr hv⟩)
      · rw [toList_compactMembers_cons m hmembers, List.mem_append, List.mem_cons, List.mem_append,
          List.mem_cons] at h
        rcases h with hname | rfl | hv | rfl | hmore
        · exact .inr (.inr ⟨m, List.mem_cons_self, .inl hname⟩)
        · exact .inr (.inl rfl)
        · exact .inr (.inr ⟨m, List.mem_cons_self, .inr hv⟩)
        · exact .inl rfl
        · exact (ih hmore).imp_right fun h =>
            h.imp_right fun ⟨n, hn, hc⟩ => ⟨n, List.mem_cons_of_mem _ hn, hc⟩

/-- **The compact text of a plain value holds no control character.** -/
theorem Plain.le_toNat {v : Json} (h : v.Plain) {c : Char} (hc : c ∈ v.compact.toList) :
    0x20 ≤ c.toNat := by
  induction h with
  | null =>
      have hletter : c ∈ ['n', 'u', 'l', 'l'] := hc
      simp only [List.mem_cons, List.not_mem_nil, or_false] at hletter
      rcases hletter with rfl | rfl | rfl | rfl <;> decide
  | bool b =>
      have hletter : c ∈ ['f', 'a', 'l', 's', 'e'] ∨ c ∈ ['t', 'r', 'u', 'e'] := by
        cases b with
        | false => exact .inl hc
        | true => exact .inr hc
      simp only [List.mem_cons, List.not_mem_nil, or_false] at hletter
      rcases hletter with (rfl | rfl | rfl | rfl | rfl) | rfl | rfl | rfl | rfl <;> decide
  | @integer n hn =>
      rw [toList_compact_integer] at hc
      exact le_toNat_of_mem_integerChars hc
  | string s => exact le_toNat_of_mem_quote (by rwa [compact] at hc)
  | @array items hplain ih =>
      rw [toList_compact_array, List.mem_cons, List.mem_append, List.mem_singleton] at hc
      rcases hc with rfl | hitem | rfl
      · decide
      · rcases mem_compactItems hitem with rfl | ⟨v, hv, hc⟩
        · decide
        · exact ih v hv hc
      · decide
  | @object members hplain ih =>
      rw [toList_compact_object, List.mem_cons, List.mem_append, List.mem_singleton] at hc
      rcases hc with rfl | hmember | rfl
      · decide
      · rcases mem_compactMembers hmember with rfl | rfl | ⟨m, hm, hname | hc⟩
        · decide
        · decide
        · exact le_toNat_of_mem_quote hname
        · exact ih m hm hc
      · decide

end Turnstile.Json
