import Dialogue.Json.Printer
import Dialogue.Proofs.Json.Decode

/-!
# Reading what was written

The compact form of a tree is read back as that tree, up to doubles, whose notation is taken on trust. A
value is read without regard to what stands behind it, as long as that cannot be taken for part of a
number.
-/
namespace Dialogue.Json

/-! ## Quoted texts -/

/-- The unit of a quoted text stands for a character. -/
inductive TextUnit.Means : TextUnit → Char → Prop
  | raw (c : Char) : Means (.raw c) c
  | short (c : Char) : Means (.short c) c
  | hex (c : Char) (control : c.toNat < 32) : Means (.hex c.toNat) c

theorem hexValue?_hexDigit : ∀ n < 16, hexValue? (hexDigit n) = some n := by decide

theorem eq_ofNat_of_toNat {c : Char} {n : Nat} (code : c.toNat = n) : c = Char.ofNat n := by
  rw [← code, Char.ofNat_toNat]

/-- A character is scanned as one unit that stands for it. -/
theorem scanText_escapeChar (c : Char) (rest : List Char) :
    ∃ unit, TextUnit.Means unit c ∧
      scanText (escapeChar c ++ rest) = (unit :: (scanText rest).1, (scanText rest).2) := by
  unfold escapeChar
  split
  next equal => exact ⟨.short c, .short c, by subst equal; rfl⟩
  split
  next equal => exact ⟨.short c, .short c, by subst equal; rfl⟩
  split
  next equal => exact ⟨.short c, .short c, by subst equal; rfl⟩
  split
  next equal => exact ⟨.short c, .short c, by subst equal; rfl⟩
  split
  next equal => exact ⟨.short c, .short c, by subst equal; rfl⟩
  split
  next code => exact ⟨.short c, .short c, by rw [eq_ofNat_of_toNat code]; rfl⟩
  split
  next code => exact ⟨.short c, .short c, by rw [eq_ofNat_of_toNat code]; rfl⟩
  split
  next control =>
    have high := hexValue?_hexDigit (c.toNat / 16) (by omega)
    have low := hexValue?_hexDigit (c.toNat % 16) (by omega)
    have zero : hexValue? '0' = some 0 := by decide
    have value : c.toNat / 16 * 16 + c.toNat % 16 = c.toNat := by omega
    refine ⟨.hex c.toNat, .hex c control, ?_⟩
    simp only [List.cons_append, List.nil_append]
    rw [scanText]
    simp [hexValues?, high, low, zero, value]
  next notQuote notSlash _ _ _ _ _ printable =>
    refine ⟨.raw c, .raw c, ?_⟩
    simp only [List.cons_append, List.nil_append]
    rw [scanText.eq_def]
    split <;> simp_all

theorem pairUnits_cons {unit : TextUnit} {c : Char} (means : unit.Means c) (ending : TextEnd)
    (units : List TextUnit) :
    pairUnits ending (unit :: units) = (c :: ·) <$> pairUnits ending units := by
  cases means with
  | raw => rw [pairUnits]
  | short => rw [pairUnits]
  | hex _ control =>
    have notTrailing : isTrailing c.toNat = false := by
      simp only [isTrailing, Bool.and_eq_false_iff, decide_eq_false_iff_not]
      omega
    have notLeading : isLeading c.toNat = false := by
      simp only [isLeading, Bool.and_eq_false_iff, decide_eq_false_iff_not]
      omega
    cases units with
    | nil =>
      simp only [pairUnits, notTrailing, notLeading, Bool.false_eq_true, if_false, Char.ofNat_toNat]
      rfl
    | cons next rest => simp [pairUnits, notTrailing, notLeading, Char.ofNat_toNat]

theorem scanText_quoted (cs rest : List Char) :
    (scanText (cs.flatMap escapeChar ++ '"' :: rest)).2 = .closed rest ∧
      ∀ ending, pairUnits ending (scanText (cs.flatMap escapeChar ++ '"' :: rest)).1 = .ok cs := by
  induction cs with
  | nil => exact ⟨rfl, fun _ => rfl⟩
  | cons c cs ih =>
    obtain ⟨unit, means, scanned⟩ := scanText_escapeChar c (cs.flatMap escapeChar ++ '"' :: rest)
    rw [List.flatMap_cons, List.append_assoc, scanned]
    refine ⟨ih.1, fun ending => ?_⟩
    rw [pairUnits_cons means, ih.2]
    rfl

theorem readText_quoted (s : String) (rest : List Char) :
    readText (s.toList.flatMap escapeChar ++ '"' :: rest) = ⟨.ok s, none, some rest⟩ := by
  obtain ⟨closed, paired⟩ := scanText_quoted s.toList rest
  simp only [readText, closed, paired, TextEnd.fault?, String.ofList_toList]

/-! ## Numbers -/

/-- What may stand behind a value: nothing that could be taken for more of a number. -/
def Delimited (rest : List Char) : Prop :=
  ∀ c, rest.head? = some c → c = ',' ∨ c = ']' ∨ c = '\x7d'

theorem Delimited.not_digit {c : Char} {rest : List Char} (ends : Delimited (c :: rest)) :
    isDigit c = false := by
  rcases ends c rfl with rfl | rfl | rfl <;> decide

/-- What stands behind a value does not continue it with a mark of a number. -/
theorem Delimited.not_continued {c : Char} {left rest tail : List Char} (ends : Delimited rest)
    (mark : c = '.' ∨ c = 'e' ∨ c = 'E') (fresh : ∀ more, left = c :: more → False) :
    left ++ rest ≠ c :: tail := by
  intro opens
  cases left with
  | nil =>
    rw [List.nil_append] at opens
    subst opens
    rcases ends c rfl with rfl | rfl | rfl <;> simp at mark
  | cons first more =>
    obtain ⟨rfl, _⟩ := List.cons.inj opens
    exact fresh more rfl

theorem takeWhile_isDigit_append (cs : List Char) {rest : List Char} (ends : Delimited rest) :
    (cs ++ rest).takeWhile isDigit = cs.takeWhile isDigit := by
  induction cs with
  | nil =>
    cases rest with
    | nil => rfl
    | cons c rest => simp [ends.not_digit]
  | cons c cs ih => by_cases digit : isDigit c = true <;> simp [digit, ih]

theorem dropWhile_isDigit_append (cs : List Char) {rest : List Char} (ends : Delimited rest) :
    (cs ++ rest).dropWhile isDigit = cs.dropWhile isDigit ++ rest := by
  induction cs with
  | nil =>
    cases rest with
    | nil => rfl
    | cons c rest => simp [ends.not_digit]
  | cons c cs ih => by_cases digit : isDigit c = true <;> simp [digit, ih]

theorem numberStop_stops (cs : List Char) (tree : Json) (left : List Char) :
    numberStop cs ≠ (tree, some left) := by
  unfold numberStop stop
  split <;> simp

variable {tree : Json} {left : List Char}

/-- The digits of an exponent, behind its sign. -/
def readScale (negative : Bool) (significand : Nat) (scale : Int) (down : Bool) (cs : List Char) :
    Json × Rest :=
  if (cs.takeWhile isDigit).isEmpty then numberStop cs
  else
    let e : Int := digitsValue (cs.takeWhile isDigit)
    (floatToken negative significand (scale + if down then -e else e), some (cs.dropWhile isDigit))

theorem readScale_append {negative : Bool} {significand : Nat} {scale : Int} (down : Bool)
    {cs rest : List Char} (ends : Delimited rest)
    (read : readScale negative significand scale down cs = (tree, some left)) :
    readScale negative significand scale down (cs ++ rest) = (tree, some (left ++ rest)) := by
  unfold readScale at read ⊢
  rw [takeWhile_isDigit_append cs ends, dropWhile_isDigit_append cs ends]
  split at read
  · exact absurd read (numberStop_stops cs tree left)
  next digits =>
    obtain ⟨rfl, rest⟩ := Prod.mk.inj read
    rw [if_neg digits, Option.some.inj rest]

theorem readExponent_unsigned (negative : Bool) (significand : Nat) (scale : Int) {c : Char}
    (cs : List Char) (notPlus : c ≠ '+') (notMinus : c ≠ '-') :
    readExponent negative significand scale (c :: cs) =
      readScale negative significand scale false (c :: cs) := by
  unfold readExponent readScale
  split
  next signed => split at signed <;> simp_all

/-- An exponent is read alike whatever stands behind it. -/
theorem readExponent_append {negative : Bool} {significand : Nat} {scale : Int}
    {cs rest : List Char} (ends : Delimited rest)
    (read : readExponent negative significand scale cs = (tree, some left)) :
    readExponent negative significand scale (cs ++ rest) = (tree, some (left ++ rest)) := by
  cases cs with
  | nil => exact absurd read (numberStop_stops [] tree left)
  | cons c cs =>
    by_cases plus : c = '+'
    · subst plus
      exact readScale_append false ends read
    · by_cases minus : c = '-'
      · subst minus
        exact readScale_append true ends read
      · rw [readExponent_unsigned _ _ _ _ plus minus] at read
        rw [List.cons_append, readExponent_unsigned _ _ _ _ plus minus]
        exact readScale_append false ends read

theorem readFraction_append {negative : Bool} {whole : Nat} {scale : Int} {cs rest : List Char}
    (ends : Delimited rest) (read : readFraction negative whole scale cs = (tree, some left)) :
    readFraction negative whole scale (cs ++ rest) = (tree, some (left ++ rest)) := by
  simp only [readFraction] at read ⊢
  rw [takeWhile_isDigit_append cs ends, dropWhile_isDigit_append cs ends]
  split at read
  · exact absurd read (numberStop_stops cs tree left)
  next digits =>
    rw [if_neg digits]
    generalize cs.dropWhile isDigit = behind at read ⊢
    split at read
    next => exact readExponent_append ends read
    next => exact readExponent_append ends read
    next notMark notCapital =>
      obtain ⟨rfl, same⟩ := Prod.mk.inj read
      cases same
      split
      next opens => exact absurd opens (ends.not_continued (by simp) notMark)
      next opens => exact absurd opens (ends.not_continued (by simp) notCapital)
      next => rfl

theorem stop_stops (fault : Fault) : stop fault ≠ (tree, some left) := by simp [stop]

/-- A number is read alike whatever stands behind it. -/
theorem readMagnitude_append {negative : Bool} {cs rest : List Char} (ends : Delimited rest)
    (read : readMagnitude negative cs = (tree, some left)) :
    readMagnitude negative (cs ++ rest) = (tree, some (left ++ rest)) := by
  simp only [readMagnitude] at read ⊢
  rw [takeWhile_isDigit_append cs ends, dropWhile_isDigit_append cs ends]
  split at read
  next => exact absurd read (numberStop_stops cs tree left)
  next => exact absurd read (stop_stops _)
  next digits notEmpty notZero =>
    generalize cs.dropWhile isDigit = behind at read ⊢
    split at read
    next => exact readFraction_append ends read
    next => exact readExponent_append ends read
    next => exact readExponent_append ends read
    next notPoint notMark notCapital =>
      obtain ⟨rfl, same⟩ := Prod.mk.inj read
      cases same
      split
      next opens => exact absurd opens (ends.not_continued (by simp) notPoint)
      next opens => exact absurd opens (ends.not_continued (by simp) notMark)
      next opens => exact absurd opens (ends.not_continued (by simp) notCapital)
      next => rfl

theorem le_ofDigitChars (cs : List Char) (start : Nat) : start ≤ Nat.ofDigitChars 10 cs start := by
  induction cs generalizing start with
  | nil => exact Nat.le_refl _
  | cons c rest ih =>
    rw [Nat.ofDigitChars_cons]
    have more := ih (10 * start + (c.toNat - '0'.toNat))
    omega

/-- The digits of a number that fits 64 bits are all taken. -/
theorem takeDigits_of_fits {cs : List Char} {start : Nat}
    (fits : Nat.ofDigitChars 10 cs start < Nat.pow 2 64) :
    takeDigits start cs = (Nat.ofDigitChars 10 cs start, []) := by
  induction cs generalizing start with
  | nil => rfl
  | cons c rest ih =>
    have next : start * 10 + (c.toNat - 48) = 10 * start + (c.toNat - '0'.toNat) := by
      rw [Nat.mul_comm]
      rfl
    rw [Nat.ofDigitChars_cons] at fits ⊢
    have small := Nat.lt_of_le_of_lt (le_ofDigitChars rest _) fits
    rw [takeDigits, next, if_pos small, ih fits]

theorem takeDigits_toDigits {n : Nat} (fits : n < Nat.pow 2 64) :
    takeDigits 0 (Nat.toDigits 10 n) = (n, []) := by
  have value : Nat.ofDigitChars 10 (Nat.toDigits 10 n) 0 = n := Nat.ofDigitChars_ten_toDigits
  rw [takeDigits_of_fits (value.symm ▸ fits), value]

theorem head?_toDigits {n : Nat} (positive : 0 < n) : (Nat.toDigits 10 n).head? ≠ some '0' := by
  induction n using Nat.strongRecOn with
  | _ n ih =>
    rw [Nat.toDigits_eq_if (by decide)]
    split
    next small =>
      intro zero
      simp only [List.head?_cons, Option.some.injEq, Nat.digitChar_eq_zero] at zero
      omega
    next large =>
      have more : 0 < n / 10 := by omega
      have earlier := ih (n / 10) (by omega) more
      cases digits : Nat.toDigits 10 (n / 10) with
      | nil => exact absurd digits Nat.toDigits_ne_nil
      | cons first rest => simpa [digits] using earlier

theorem readMagnitude_toDigits (negative : Bool) {n : Nat} (fits : n < Nat.pow 2 64) :
    readMagnitude negative (Nat.toDigits 10 n) = (integerToken negative n, some []) := by
  have all : ∀ c ∈ Nat.toDigits 10 n, isDigit c = true := fun c member =>
    Nat.isDigit_of_mem_toDigits (by decide) (by decide) member
  have digits : (Nat.toDigits 10 n ++ []).takeWhile isDigit = Nat.toDigits 10 n ++ [] :=
    List.takeWhile_append_of_pos all
  have behind : (Nat.toDigits 10 n ++ []).dropWhile isDigit = [] :=
    List.dropWhile_append_of_pos all
  rw [List.append_nil] at digits behind
  simp only [readMagnitude]
  rw [digits, behind, takeDigits_toDigits fits]
  split
  next noDigits => exact absurd noDigits Nat.toDigits_ne_nil
  next zero =>
    rcases Nat.eq_zero_or_pos n with rfl | positive
    · simp [Nat.toDigits_zero] at zero
    · exact absurd (by rw [zero]; rfl) (head?_toDigits positive)
  next => rfl

/-! ## Scalars -/

theorem digit_ne {c other : Char} (digit : isDigit c = true) (notDigit : isDigit other = false) :
    c ≠ other := by
  rintro rfl
  simp [digit] at notDigit

theorem isSpace_digit {c : Char} (digit : isDigit c = true) : isSpace c = false := by
  have other : c ≠ ' ' ∧ c ≠ '\n' ∧ c ≠ '\t' ∧ c ≠ '\r' := by
    refine ⟨?_, ?_, ?_, ?_⟩ <;> exact digit_ne digit (by decide)
  simp [isSpace, other]

theorem readValue_digit (fuel : Nat) {c : Char} (cs : List Char) (digit : isDigit c = true) :
    readValue (fuel + 1) (c :: cs) = readMagnitude false (c :: cs) := by
  have kept : skipSpace (c :: cs) = c :: cs := by simp [skipSpace, isSpace_digit digit]
  have other : c ≠ 'n' ∧ c ≠ 't' ∧ c ≠ 'f' ∧ c ≠ '"' ∧ c ≠ '[' ∧ c ≠ '\x7b' ∧ c ≠ '-' := by
    refine ⟨?_, ?_, ?_, ?_, ?_, ?_, ?_⟩ <;> exact digit_ne digit (by decide)
  simp [readValue, kept, other, digit]

theorem readValue_minus (fuel : Nat) (cs : List Char) :
    readValue (fuel + 1) ('-' :: cs) = readMagnitude true cs := rfl

theorem head_toDigits (n : Nat) : ∃ c cs, Nat.toDigits 10 n = c :: cs ∧ isDigit c = true := by
  cases digits : Nat.toDigits 10 n with
  | nil => exact absurd digits Nat.toDigits_ne_nil
  | cons c cs =>
    refine ⟨c, cs, rfl, ?_⟩
    exact Nat.isDigit_of_mem_toDigits (by decide) (by decide) (digits ▸ List.mem_cons_self)

/-- A tree whose compact form is read as it is, whatever stands behind it. -/
structure ReadsBack (tree : Json) : Prop where
  opens : ∃ c cs, tree.chars = c :: cs ∧ isSpace c = false ∧ c ≠ ']'
  read : ∀ fuel rest, 2 * tree.chars.length ≤ fuel → Delimited rest →
    readValue fuel (tree.chars ++ rest) = (tree, some rest)

theorem exists_fuel {bound fuel : Nat} (positive : 0 < bound) (enough : bound ≤ fuel) :
    ∃ less, fuel = less + 1 :=
  ⟨fuel - 1, by omega⟩

/-- A number reads back when it does so with nothing behind it. -/
theorem readsBack_number {tree : Json} {c : Char} {cs : List Char} {budget : Nat}
    (written : tree.chars = c :: cs) (number : c = '-' ∨ isDigit c = true)
    (alone : readValue (budget + 1) (c :: cs) = (tree, some [])) : ReadsBack tree := by
  refine ⟨⟨c, cs, written, ?_⟩, fun fuel rest enough ends => ?_⟩
  · rcases number with rfl | digit
    · decide
    · exact ⟨isSpace_digit digit, digit_ne digit (by decide)⟩
  · rw [written] at enough ⊢
    obtain ⟨fuel, rfl⟩ := exists_fuel (by simp) enough
    rcases number with rfl | digit
    · rw [readValue_minus] at alone
      rw [List.cons_append, readValue_minus, readMagnitude_append ends alone]
      rfl
    · rw [readValue_digit _ _ digit] at alone
      rw [List.cons_append, readValue_digit _ _ digit, ← List.cons_append,
        readMagnitude_append ends alone]
      rfl

theorem integerToken_natAbs {n : Int} (low : -9223372036854775808 ≤ n)
    (high : n < 18446744073709551616) : integerToken (n < 0) n.natAbs = .int n := by
  have bounds : Nat.pow 2 63 = 9223372036854775808 ∧ Nat.pow 2 64 = 18446744073709551616 := by decide
  unfold integerToken
  rw [bounds.1, bounds.2]
  by_cases negative : n < 0
  · have small : 0 < n.natAbs ∧ n.natAbs ≤ 9223372036854775808 := by omega
    have back : -(n.natAbs : Int) = n := by omega
    simp only [negative, small, back]
    simp
  · have small : n.natAbs < 18446744073709551616 := by omega
    have back : (n.natAbs : Int) = n := by omega
    simp only [negative, small, back]
    simp

theorem readsBack_int {n : Int} (low : -9223372036854775808 ≤ n) (high : n < 18446744073709551616) :
    ReadsBack (.int n) := by
  have token := integerToken_natAbs low high
  have fits : n.natAbs < Nat.pow 2 64 := by
    have bound : Nat.pow 2 64 = 18446744073709551616 := by decide
    omega
  by_cases negative : n < 0
  · have written : (Json.int n).chars = '-' :: Nat.toDigits 10 n.natAbs := by
      simp [chars, Decimal.intText, negative]
    have alone : readValue 1 ('-' :: Nat.toDigits 10 n.natAbs) = (.int n, some []) := by
      rw [readValue_minus, readMagnitude_toDigits true fits, ← token]
      simp [negative]
    exact readsBack_number written (Or.inl rfl) alone
  · obtain ⟨c, cs, digits, digit⟩ := head_toDigits n.natAbs
    have written : (Json.int n).chars = c :: cs := by simp [chars, Decimal.intText, negative, digits]
    have alone : readValue 1 (c :: cs) = (.int n, some []) := by
      rw [readValue_digit _ _ digit, ← digits, readMagnitude_toDigits false fits, ← token]
      simp [negative]
    exact readsBack_number written (Or.inr digit) alone

/-! ### Doubles -/

theorem head_positional (d : Decimal.Scaled) :
    ∃ c cs, d.positional.1 = c :: cs ∧ isDigit c = true := by
  obtain ⟨c, cs, digits, digit⟩ := head_toDigits d.digits
  simp only [Decimal.Scaled.positional, digits]
  split
  · exact ⟨c, _, rfl, digit⟩
  · split
    · exact ⟨'0', [], rfl, by decide⟩
    next longer =>
      obtain ⟨count, enough⟩ : ∃ count, (c :: cs).length - (-d.exponent).toNat = count + 1 :=
        ⟨(c :: cs).length - (-d.exponent).toNat - 1, by omega⟩
      rw [enough]
      exact ⟨c, _, rfl, digit⟩

/-- Either notation of a double starts with a digit. -/
theorem head_json (d : Decimal.Scaled) : ∃ c cs, d.json = c :: cs ∧ isDigit c = true := by
  unfold Decimal.Scaled.json
  split
  · obtain ⟨c, cs, whole, digit⟩ := head_positional d
    simp only [Decimal.Scaled.withFraction, whole]
    exact ⟨c, _, rfl, digit⟩
  · obtain ⟨c, cs, digits, digit⟩ := head_toDigits d.digits
    simp only [Decimal.Scaled.scientific, digits]
    cases cs with
    | nil => exact ⟨c, _, rfl, digit⟩
    | cons next rest => exact ⟨c, _, rfl, digit⟩

theorem head_jsonText (x : Float) (finite : x.isFinite = true) :
    ∃ c cs, Decimal.jsonText x = c :: cs ∧ (c = '-' ∨ isDigit c = true) := by
  have body : ∃ c cs, (if x == 0 then ['0', '.', '0'] else
      ((Decimal.Binary.ofBits x.toBits).shortest .even).json) = c :: cs ∧ isDigit c = true := by
    split
    · exact ⟨'0', _, rfl, by decide⟩
    · exact head_json _
  obtain ⟨c, cs, written, digit⟩ := body
  simp only [Decimal.jsonText, finite, written]
  split
  · simp_all
  · split
    · exact ⟨'-', _, rfl, Or.inl rfl⟩
    · exact ⟨c, cs, rfl, Or.inr digit⟩

/-- A double that is read back from its notation. -/
def Survives (x : Float) : Prop := Json.read (Json.float x).compact = (.float x, some [])

theorem readsBack_float {x : Float} (survives : Survives x) : ReadsBack (.float x) := by
  unfold Survives read compact at survives
  rw [String.toList_ofList, chars] at survives
  by_cases finite : x.isFinite = true
  · obtain ⟨c, cs, written, number⟩ := head_jsonText x finite
    rw [written] at survives
    exact readsBack_number (by rw [chars, written]) number survives
  · have null : Decimal.jsonText x = ['n', 'u', 'l', 'l'] := by simp [Decimal.jsonText, finite]
    rw [null] at survives
    simp [readValue, skipSpace, isSpace, readWord] at survives

/-! ### Words and texts -/

theorem readsBack_null : ReadsBack .null := by
  refine ⟨⟨'n', _, rfl, by decide⟩, fun fuel rest enough _ => ?_⟩
  obtain ⟨fuel, rfl⟩ := exists_fuel (by decide) enough
  rfl

theorem readsBack_bool (b : Bool) : ReadsBack (.bool b) := by
  cases b with
  | false =>
    refine ⟨⟨'f', _, rfl, by decide⟩, fun fuel rest enough _ => ?_⟩
    obtain ⟨fuel, rfl⟩ := exists_fuel (by decide) enough
    rfl
  | true =>
    refine ⟨⟨'t', _, rfl, by decide⟩, fun fuel rest enough _ => ?_⟩
    obtain ⟨fuel, rfl⟩ := exists_fuel (by decide) enough
    rfl

theorem quote_append (s : String) (rest : List Char) :
    quote s ++ rest = '"' :: (s.toList.flatMap escapeChar ++ '"' :: rest) := by
  simp [quote]

theorem readsBack_str (s : String) : ReadsBack (.str s) := by
  refine ⟨⟨'"', _, rfl, by decide⟩, fun fuel rest enough _ => ?_⟩
  obtain ⟨fuel, rfl⟩ := exists_fuel (by simp [chars, quote]) enough
  rw [chars, quote_append, readValue]
  simp [skipSpace, isSpace, readText_quoted]

/-! ## Lists -/

/-- The items of a list from the first of them on. -/
def itemsFrom (fuel : Nat) (cs : List Char) : List Json × Rest :=
  match readValue fuel cs with
  | (value, none) => ([value], none)
  | (value, some rest) => let (items, rest) := readItems fuel false rest; (value :: items, rest)

theorem readItems_first (fuel : Nat) {c : Char} (cs : List Char) (notSpace : isSpace c = false)
    (notClosing : c ≠ ']') : readItems (fuel + 1) true (c :: cs) = itemsFrom fuel (c :: cs) := by
  have kept : skipSpace (c :: cs) = c :: cs := by simp [skipSpace, notSpace]
  rw [readItems, kept]
  split
  next opens => simp at opens
  next opens => exact absurd (List.cons.inj opens).1 notClosing
  next opens =>
    cases opens
    rfl

theorem readItems_next (fuel : Nat) {c : Char} (cs : List Char) (notSpace : isSpace c = false)
    (notClosing : c ≠ ']') :
    readItems (fuel + 1) false (',' :: c :: cs) = itemsFrom fuel (c :: cs) := by
  have kept : skipSpace (c :: cs) = c :: cs := by simp [skipSpace, notSpace]
  have comma : skipSpace (',' :: c :: cs) = ',' :: c :: cs := rfl
  rw [readItems, comma]
  split
  next opens => simp at opens
  next opens => simp at opens
  next opens =>
    cases opens
    rw [if_neg Bool.false_ne_true, if_pos rfl, kept]
    split
    next opens => simp at opens
    next opens => exact absurd (List.cons.inj opens).1 notClosing
    next => rfl

theorem readItems_close (fuel : Nat) (first : Bool) (rest : List Char) :
    readItems (fuel + 1) first (']' :: rest) = ([], some rest) := rfl

theorem itemsFrom_eq {fuel : Nat} {cs behind : List Char} {value : Json} {items : List Json}
    {rest : List Char} (read : readValue fuel cs = (value, some behind))
    (more : readItems fuel false behind = (items, some rest)) :
    itemsFrom fuel cs = (value :: items, some rest) := by
  simp [itemsFrom, read, more]

theorem delimited_comma (rest : List Char) : Delimited (',' :: rest) := by simp [Delimited]

theorem delimited_bracket (rest : List Char) : Delimited (']' :: rest) := by simp [Delimited]

theorem delimited_brace (rest : List Char) : Delimited ('\x7d' :: rest) := by simp [Delimited]

theorem charsItems_opens {item : Json} {c : Char} {cs : List Char} (written : item.chars = c :: cs)
    (others : List Json) : ∃ more, charsItems (item :: others) = c :: more := by
  cases others <;> simp [charsItems, written]

/-- The items of a list are read back, at its start and behind a comma. -/
theorem readItems_chars {items : List Json} (each : ∀ item ∈ items, ReadsBack item)
    (nonempty : items ≠ []) (fuel : Nat) (rest : List Char)
    (enough : 2 * (charsItems items).length < fuel) :
    readItems fuel true (charsItems items ++ ']' :: rest) = (items, some rest) ∧
      readItems fuel false (',' :: (charsItems items ++ ']' :: rest)) = (items, some rest) := by
  induction items generalizing fuel with
  | nil => contradiction
  | cons item others ih =>
    obtain ⟨⟨c, cs, written, notSpace, notClosing⟩, read⟩ := each item (by simp)
    have size : 0 < item.chars.length := by simp [written]
    obtain ⟨fuel, rfl⟩ := exists_fuel (Nat.succ_pos _) enough
    have items : itemsFrom fuel (charsItems (item :: others) ++ ']' :: rest) =
        (item :: others, some rest) := by
      cases others with
      | nil =>
        rw [charsItems] at enough ⊢
        have first := read fuel (']' :: rest) (by omega) (delimited_bracket rest)
        obtain ⟨less, rfl⟩ : ∃ less, fuel = less + 1 := exists_fuel size (by omega)
        exact itemsFrom_eq first (readItems_close less false rest)
      | cons next others =>
        rw [charsItems, List.length_append, List.length_cons] at enough
        rw [charsItems, List.append_assoc, List.cons_append]
        refine itemsFrom_eq (read fuel _ (by omega) (delimited_comma _)) ?_
        exact (ih (fun other member => each other (by simp [member])) (by simp) fuel (by omega)).2
    obtain ⟨more, opens⟩ := charsItems_opens written others
    rw [opens, List.cons_append] at items ⊢
    rw [readItems_first fuel _ notSpace notClosing, readItems_next fuel _ notSpace notClosing]
    exact ⟨items, items⟩

theorem readValue_arr (fuel : Nat) {cs rest : List Char} {items : List Json}
    (read : readItems fuel true cs = (items, some rest)) :
    readValue (fuel + 1) ('[' :: cs) = (.arr items, some rest) := by
  have opened : readValue (fuel + 1) ('[' :: cs) =
    let (items, rest) := readItems fuel true cs; (.arr items, rest) := rfl
  rw [opened, read]

theorem readsBack_arr {items : List Json} (each : ∀ item ∈ items, ReadsBack item) :
    ReadsBack (.arr items) := by
  refine ⟨⟨'[', _, by rw [chars]; rfl, by decide⟩, fun fuel rest enough _ => ?_⟩
  have written : (Json.arr items).chars ++ rest = '[' :: (charsItems items ++ ']' :: rest) := by
    simp [chars]
  have size : (Json.arr items).chars.length = (charsItems items).length + 2 := by simp [chars]
  rw [written]
  obtain ⟨fuel, rfl⟩ : ∃ less, fuel = less + 2 := ⟨fuel - 2, by omega⟩
  apply readValue_arr
  cases items with
  | nil => rfl
  | cons item others => exact (readItems_chars each (by simp) _ rest (by omega)).1

/-! ## Objects -/

/-- The entries of an object from the first of them on, behind the quote that opens its key. -/
def entriesFrom (fuel : Nat) (cs : List Char) : List (String × Json) × Rest :=
  let reading := readText cs
  match reading.rest with
  | none =>
    match reading.text with
    | .error fault => ([("", .stray fault reading.skipped)], none)
    | .ok _ => ([], none)
  | some rest =>
    let (key, ahead) : String × List (String × Json) :=
      match reading.text with
      | .ok text => (text, [])
      | .error fault => ("", [("", .stray fault none)])
    match skipSpace rest with
    | [] => (ahead ++ [(key, .cut .endOfObject (some .endOfObject))], none)
    | ':' :: rest =>
      match readValue fuel rest with
      | (value, none) => (ahead ++ [(key, value)], none)
      | (value, some rest) =>
        let (entries, rest) := readEntries fuel false rest
        (ahead ++ (key, value) :: entries, rest)
    | _ => (ahead ++ [(key, .cut .expectedColon (some .expectedColon))], none)

theorem readEntries_first (fuel : Nat) (cs : List Char) :
    readEntries (fuel + 1) true ('"' :: cs) = entriesFrom fuel cs := rfl

theorem readEntries_next (fuel : Nat) (cs : List Char) :
    readEntries (fuel + 1) false (',' :: '"' :: cs) = entriesFrom fuel cs := rfl

theorem readEntries_close (fuel : Nat) (first : Bool) (rest : List Char) :
    readEntries (fuel + 1) first ('\x7d' :: rest) = ([], some rest) := rfl

theorem entriesFrom_eq {fuel : Nat} (key : String) {cs behind : List Char} {value : Json}
    {entries : List (String × Json)} {rest : List Char}
    (read : readValue fuel cs = (value, some behind))
    (more : readEntries fuel false behind = (entries, some rest)) :
    entriesFrom fuel (key.toList.flatMap escapeChar ++ '"' :: ':' :: cs) =
      ((key, value) :: entries, some rest) := by
  have colon : skipSpace (':' :: cs) = ':' :: cs := rfl
  simp [entriesFrom, readText_quoted, colon, read, more]

/-- The entries of an object are read back, at its start and behind a comma. -/
theorem readEntries_chars {entries : List (String × Json)}
    (each : ∀ entry ∈ entries, ReadsBack entry.2) (nonempty : entries ≠ []) (fuel : Nat)
    (rest : List Char) (enough : 2 * (charsEntries entries).length < fuel) :
    readEntries fuel true (charsEntries entries ++ '\x7d' :: rest) = (entries, some rest) ∧
      readEntries fuel false (',' :: (charsEntries entries ++ '\x7d' :: rest)) =
        (entries, some rest) := by
  induction entries generalizing fuel with
  | nil => contradiction
  | cons entry others ih =>
    obtain ⟨key, value⟩ := entry
    obtain ⟨_, read⟩ : ReadsBack value := each (key, value) (by simp)
    obtain ⟨fuel, rfl⟩ := exists_fuel (Nat.succ_pos _) enough
    cases others with
    | nil =>
      rw [charsEntries, List.length_append, List.length_cons] at enough
      rw [charsEntries, List.append_assoc, List.cons_append, quote_append, readEntries_first,
        readEntries_next]
      have first := read fuel ('\x7d' :: rest) (by omega) (delimited_brace rest)
      obtain ⟨less, rfl⟩ : ∃ less, fuel = less + 1 := ⟨fuel - 1, by omega⟩
      have whole := entriesFrom_eq key first (readEntries_close less false rest)
      exact ⟨whole, whole⟩
    | cons next others =>
      rw [charsEntries, List.length_append, List.length_cons, List.length_append,
        List.length_cons] at enough
      rw [charsEntries, List.append_assoc, List.cons_append, List.append_assoc, List.cons_append,
        quote_append, readEntries_first, readEntries_next]
      have more := (ih (fun other member => each other (by simp [member])) (by simp) fuel
        (by omega)).2
      have whole := entriesFrom_eq key (read fuel _ (by omega) (delimited_comma _)) more
      exact ⟨whole, whole⟩

theorem readValue_obj (fuel : Nat) {cs rest : List Char} {entries : List (String × Json)}
    (read : readEntries fuel true cs = (entries, some rest)) :
    readValue (fuel + 1) ('\x7b' :: cs) = (.obj entries, some rest) := by
  have opened : readValue (fuel + 1) ('\x7b' :: cs) =
    let (entries, rest) := readEntries fuel true cs; (.obj entries, rest) := rfl
  rw [opened, read]

/-- An object closes itself, so it is read alike whatever stands behind it. -/
theorem readValue_chars_obj {entries : List (String × Json)}
    (each : ∀ entry ∈ entries, ReadsBack entry.2) {fuel : Nat} (rest : List Char)
    (enough : 2 * (Json.obj entries).chars.length ≤ fuel) :
    readValue fuel ((Json.obj entries).chars ++ rest) = (.obj entries, some rest) := by
  have written : (Json.obj entries).chars ++ rest =
      '\x7b' :: (charsEntries entries ++ '\x7d' :: rest) := by simp [chars]
  have size : (Json.obj entries).chars.length = (charsEntries entries).length + 2 := by simp [chars]
  rw [written]
  obtain ⟨fuel, rfl⟩ : ∃ less, fuel = less + 2 := ⟨fuel - 2, by omega⟩
  apply readValue_obj
  cases entries with
  | nil => rfl
  | cons entry others => exact (readEntries_chars each (by simp) _ rest (by omega)).1

theorem readsBack_obj {entries : List (String × Json)} (each : ∀ entry ∈ entries, ReadsBack entry.2) :
    ReadsBack (.obj entries) :=
  ⟨⟨'\x7b', _, by rw [chars]; rfl, by decide⟩, fun _ rest enough _ => readValue_chars_obj each rest enough⟩

/-- No compact form of an object begins that of another one. -/
theorem obj_eq_of_isPrefix {entries others : List (String × Json)}
    (each : ∀ entry ∈ entries, ReadsBack entry.2) (eachOther : ∀ entry ∈ others, ReadsBack entry.2)
    (begins : (Json.obj entries).chars <+: (Json.obj others).chars) : entries = others := by
  obtain ⟨rest, whole⟩ := begins
  have shorter : (Json.obj entries).chars.length ≤ (Json.obj others).chars.length := by
    rw [← whole, List.length_append]
    exact Nat.le_add_right _ _
  -- Both are read with the fuel of the longer one.
  have one := readValue_chars_obj each rest (Nat.mul_le_mul_left 2 shorter)
  have other := readValue_chars_obj eachOther [] (Nat.le_refl _)
  rw [List.append_nil] at other
  rw [whole, other] at one
  exact (Json.obj.inj (Prod.mk.inj one).1).symm

/-! ## Trees -/

/-- Every double in a tree is read back from its notation. -/
def DoublesSurvive (tree : Json) : Prop := ∀ x, Json.float x ∈ tree.scalars → Survives x

/-- A tree without faults is read back from its compact form. -/
theorem readsBack {tree : Json} (plain : tree.Plain) (survive : tree.DoublesSurvive) :
    ReadsBack tree := by
  induction tree with
  | null => exact readsBack_null
  | bool b => exact readsBack_bool b
  | str s => exact readsBack_str s
  | int n =>
    obtain ⟨low, high⟩ := (plain_int n).mp plain
    exact readsBack_int low high
  | float x => exact readsBack_float (survive x (List.mem_singleton.mpr rfl))
  | cut read skipped => exact absurd plain (not_plain_cut read skipped)
  | stray read skipped => exact absurd plain (not_plain_stray read skipped)
  | arr items ih =>
    rw [plain_arr] at plain
    refine readsBack_arr fun item member => ih item member (plain item member) fun x inside => ?_
    apply survive x
    rw [scalars_arr]
    exact List.mem_flatMap.mpr ⟨item, member, inside⟩
  | obj entries ih =>
    rw [plain_obj] at plain
    refine readsBack_obj fun entry member => ih entry member (plain entry member) fun x inside => ?_
    apply survive x
    rw [scalars_obj]
    exact List.mem_flatMap.mpr ⟨entry, member, inside⟩

theorem ReadsBack.read_compact {tree : Json} (back : ReadsBack tree) :
    Json.read tree.compact = (tree, some []) := by
  have alone := back.read (2 * tree.chars.length + 2) [] (by omega) (by simp [Delimited])
  rw [List.append_nil] at alone
  rw [Json.read, compact, String.toList_ofList, alone]

/-- A tree is parsed from its compact form when it is not too deep and its objects have distinct keys. -/
theorem ReadsBack.parse_compact {tree : Json} (back : ReadsBack tree)
    (shallow : tree.readFault? maxNesting = none) (settled : tree.settle = tree) :
    parse tree.compact = .ok tree := by
  simp [parse, back.read_compact, shallow, settled]

/-- The compact form of a tree without faults is read as that tree, and nothing is left. -/
theorem read_compact {tree : Json} (plain : tree.Plain) (survive : tree.DoublesSurvive) :
    Json.read tree.compact = (tree, some []) :=
  (readsBack plain survive).read_compact

/-- A fault that is none, or that of a tree which is nested too deeply. -/
def OnlyTooDeep (fault : Option Fault) : Prop := fault = none ∨ fault = some .tooDeep

theorem OnlyTooDeep.orElse {first second : Option Fault} (left : OnlyTooDeep first)
    (right : OnlyTooDeep second) : OnlyTooDeep (first.orElse fun _ => second) := by
  rcases left with rfl | rfl
  · exact right
  · exact Or.inr rfl

theorem onlyTooDeep_items {budget : Nat} {items : List Json}
    (each : ∀ item ∈ items, OnlyTooDeep (item.readFault? budget)) :
    OnlyTooDeep (itemsFault? budget items) := by
  induction items with
  | nil => exact Or.inl rfl
  | cons item rest ih =>
    obtain ⟨here, later⟩ := List.forall_mem_cons.mp each
    exact here.orElse (ih later)

theorem onlyTooDeep_entries {budget : Nat} {entries : List (String × Json)}
    (each : ∀ entry ∈ entries, OnlyTooDeep (entry.2.readFault? budget)) :
    OnlyTooDeep (entriesFault? budget entries) := by
  induction entries with
  | nil => exact Or.inl rfl
  | cons entry rest ih =>
    obtain ⟨here, later⟩ := List.forall_mem_cons.mp each
    exact here.orElse (ih later)

theorem readFault?_of_plain {tree : Json} (plain : tree.Plain) (budget : Nat) :
    OnlyTooDeep (tree.readFault? budget) := by
  induction tree generalizing budget with
  | null | bool | int | float | str => exact Or.inl (by simp [readFault?])
  | cut read skipped => exact absurd plain (not_plain_cut read skipped)
  | stray read skipped => exact absurd plain (not_plain_stray read skipped)
  | arr items ih =>
    rw [plain_arr] at plain
    cases budget with
    | zero => exact Or.inr (by simp [readFault?])
    | succ budget =>
      rw [readFault?]
      exact onlyTooDeep_items fun item member => ih item member (plain item member) budget
  | obj entries ih =>
    rw [plain_obj] at plain
    cases budget with
    | zero => exact Or.inr (by simp [readFault?])
    | succ budget =>
      rw [readFault?]
      exact onlyTooDeep_entries fun entry member => ih entry member (plain entry member) budget

/-- What a decoder accepts it also takes from the compact form, unless that is nested too deeply. -/
theorem Decoder.Accepts.runText_compact {α : Type} {d : Decoder α} {tree : Json} {a : α}
    (form : d.Accepts tree a) (survive : tree.DoublesSurvive) :
    d.runText tree.compact = .ok a ∨ tree.readFault? maxNesting = some .tooDeep := by
  rcases readFault?_of_plain form.plain maxNesting with shallow | deep
  · have decoded := form.decoded (.text 0) shallow
    exact Or.inl (by simp [runText, read_compact form.plain survive, decoded])
  · exact Or.inr deep

end Dialogue.Json
