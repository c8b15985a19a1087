import PeopleFeed.Json.File
import PeopleFeed.Proofs.Json.Printing
import PeopleFeed.Proofs.Text.Decoding

/-! Texts that are read as a value whatever stands behind them. What a value is printed as is one
of them, unless the value has numbers that are cut short or refused. -/
namespace PeopleFeed.Json

open PeopleFeed.Text (Standins firstSurrogate surrogateCount hexadecimal hexDigit hexValue?
  hexValue?_hexDigit)

variable {st : Standins} {codec : Codec} {digits room : Nat} {t gap rest w ds : List Char}
  {v : Value} {items : List Value} {fields : Fields}

/-! Strings. -/

theorem codeUnit?_hexDigit {a b c d : Nat} (ha : a < 16) (hb : b < 16) (hc : c < 16)
    (hd : d < 16) :
    codeUnit? (hexDigit a) (hexDigit b) (hexDigit c) (hexDigit d) =
      some (((a * 16 + b) * 16 + c) * 16 + d) := by
  simp [codeUnit?, hexValue?_hexDigit, ha, hb, hc, hd]

/-- A code unit stands on its own if it is no high surrogate, or if no escape follows. -/
theorem readString_unicodeEscape (start done : List Char) {n : Nat} (hn : n < 0x10000)
    (hrest : rest ≠ []) (halone : isHighSurrogate n = false ∨ ∀ cs, rest ≠ '\\' :: cs) :
    readString st start done (unicodeEscape n ++ rest) =
      readString st start (unitChar st n :: done) rest := by
  have hunit : codeUnit? (hexDigit (n / 16 / 16 / 16 % 16)) (hexDigit (n / 16 / 16 % 16))
      (hexDigit (n / 16 % 16)) (hexDigit (n % 16)) = some n := by
    rw [codeUnit?_hexDigit (Nat.mod_lt _ (by decide)) (Nat.mod_lt _ (by decide))
      (Nat.mod_lt _ (by decide)) (Nat.mod_lt _ (by decide))]
    congr 1
    omega
  simp only [unicodeEscape, hexadecimal, List.nil_append, List.cons_append]
  -- What follows is looked at only after a high surrogate.
  by_cases hpair : ∃ e f g h i rest', rest = '\\' :: 'u' :: e :: f :: g :: h :: i :: rest'
  · obtain ⟨e, f, g, h, i, rest', rfl⟩ := hpair
    have hhigh := halone.resolve_right fun hne => hne _ rfl
    rw [readString.eq_6 _ _ _ _ _ _ _ _ _ _ _ _ _ _ hunit, hhigh]
    simp
  · rw [readString.eq_7 _ _ _ _ _ _ _ _ _ hunit (fun h => hrest h)
      (fun e f g h i rest' h' => hpair ⟨e, f, g, h, i, rest', h'⟩)]
    cases isHighSurrogate n <;> rfl

theorem isHighSurrogate_of_lt {n : Nat} (hn : n < 0xD800) : isHighSurrogate n = false := by
  simp [isHighSurrogate]
  omega

theorem unitChar_of_lt {n : Nat} (hn : n < 0xD800) : unitChar st n = Char.ofNat n := by
  have hlow : isLowSurrogate n = false := by
    simp [isLowSurrogate]
    omega
  simp [unitChar, isHighSurrogate_of_lt hn, hlow]

/-- A surrogate on its own is read as the character that stands for it. -/
theorem readString_surrogate (start done rest : List Char) {n : Nat} (h : firstSurrogate ≤ n)
    (hlast : n < firstSurrogate + surrogateCount) :
    readString st start done (unicodeEscape n ++ '"' :: rest) =
      .ok (String.ofList (done.reverse ++ [st.char n]), rest) := by
  have hchar : unitChar st n = st.char n := by
    have hsurrogate : (isHighSurrogate n || isLowSurrogate n) = true := by
      simp [isHighSurrogate, isLowSurrogate, firstSurrogate, surrogateCount] at *
      omega
    rw [unitChar, if_pos hsurrogate]
  have hn : n < 0x10000 := Nat.lt_of_lt_of_le hlast (by decide)
  rw [readString_unicodeEscape start done hn (by simp) (.inr (by simp)), hchar, readString,
    List.reverse_cons]

theorem readString_letterEscape (start done rest : List Char) {c e : Char} (hc : c ≠ 'u')
    (h : letterEscape? c = some e) :
    readString st start done ('\\' :: c :: rest) = readString st start (e :: done) rest := by
  rw [readString.eq_9 _ _ _ _ _ (fun _ _ _ _ _ hu => absurd hu hc) hc, h]

/-- A character is read back from its escape. -/
theorem readString_escapeChar (start done : List Char) (c : Char) (hrest : rest ≠ []) :
    readString st start done (escapeChar .plain c ++ rest) =
      readString st start (c :: done) rest := by
  by_cases hletter : ∃ l, l ≠ 'u' ∧ letterEscape? l = some c ∧ escapeChar .plain c = ['\\', l]
  · obtain ⟨l, hl, hc, hescape⟩ := hletter
    rw [hescape]
    exact readString_letterEscape start done rest hl hc
  · have hnot : c ≠ '"' ∧ c ≠ '\\' ∧ c ≠ '\n' ∧ c ≠ '\r' ∧ c ≠ '\t' ∧ c ≠ '\x08' ∧
        c ≠ '\x0c' := by
      refine ⟨?_, ?_, ?_, ?_, ?_, ?_, ?_⟩ <;> rintro rfl <;> apply hletter
      · exact ⟨'"', by decide, rfl, rfl⟩
      · exact ⟨'\\', by decide, rfl, rfl⟩
      · exact ⟨'n', by decide, rfl, rfl⟩
      · exact ⟨'r', by decide, rfl, rfl⟩
      · exact ⟨'t', by decide, rfl, rfl⟩
      · exact ⟨'b', by decide, rfl, rfl⟩
      · exact ⟨'f', by decide, rfl, rfl⟩
    obtain ⟨hquote, hbackslash, h1, h2, h3, h4, h5⟩ := hnot
    simp only [escapeChar, hquote, hbackslash, h1, h2, h3, h4, h5, if_false, Style.units]
    by_cases hcontrol : c.toNat < 0x20
    · have hescape : Style.plain.escapes c = true := by simp [Style.escapes, hcontrol]
      have hunits : escapeUnits c = unicodeEscape c.toNat := by
        simp only [escapeUnits]
        rw [if_pos (by omega)]
      have hlt : c.toNat < 0xD800 := by omega
      rw [if_pos hescape, hunits, readString_unicodeEscape start done (by omega) hrest
        (.inl (isHighSurrogate_of_lt hlt)), unitChar_of_lt hlt, Char.ofNat_toNat]
    · have hescape : Style.plain.escapes c = false := by simp [Style.escapes, hcontrol]
      rw [hescape]
      simp only [Bool.false_eq_true, if_false, List.cons_append, List.nil_append]
      rw [readString.eq_10 _ _ _ _ _ hquote (fun h => absurd h hbackslash)
        (fun _ _ _ _ _ h => absurd h hbackslash) (fun _ h => absurd h hbackslash)
        (fun _ _ h => absurd h hbackslash), if_neg hcontrol]

/-- A text is read back from its escapes up to the closing quote. -/
theorem readString_escapes (start done cs rest : List Char) :
    readString st start done (cs.flatMap (escapeChar .plain) ++ '"' :: rest) =
      .ok (String.ofList (done.reverse ++ cs), rest) := by
  induction cs generalizing done with
  | nil => simp [readString]
  | cons c cs ih =>
    rw [List.flatMap_cons, List.append_assoc, readString_escapeChar start done c (by simp), ih]
    simp

theorem printString_append (s : String) (rest : List Char) :
    printString .plain s ++ rest =
      '"' :: (s.toList.flatMap (escapeChar .plain) ++ '"' :: rest) := by
  simp [printString]

theorem readString_printString (start : List Char) (s : String) (rest : List Char) :
    readString st start [] (s.toList.flatMap (escapeChar .plain) ++ '"' :: rest) =
      .ok (s, rest) := by
  simp [readString_escapes]

/-! Numbers. -/

/-- Nothing that could go on with digits. -/
def EndsDigits (rest : List Char) : Prop :=
  ∀ c cs, rest = c :: cs → isDigitChar c = false

/-- Nothing that could go on with a number. -/
def EndsNumber (rest : List Char) : Prop :=
  ∀ c cs, rest = c :: cs → isDigitChar c = false ∧ c ≠ '.' ∧ c ≠ 'e' ∧ c ≠ 'E'

theorem EndsNumber.endsDigits (h : EndsNumber rest) : EndsDigits rest :=
  fun c cs hcons => (h c cs hcons).1

theorem endsDigits_cons {c : Char} (cs : List Char) (h : isDigitChar c = false) :
    EndsDigits (c :: cs) := by
  intro c' cs' hcons
  cases hcons
  exact h

theorem endsNumber_nil : EndsNumber [] := by
  intro c cs hcons
  cases hcons

theorem endsNumber_cons {c : Char} (cs : List Char)
    (h : isDigitChar c = false ∧ c ≠ '.' ∧ c ≠ 'e' ∧ c ≠ 'E') : EndsNumber (c :: cs) := by
  intro c' cs' hcons
  cases hcons
  exact h

theorem ne_of_isDigitChar {d c : Char} (hd : isDigitChar d = true) (hc : isDigitChar c = false) :
    d ≠ c := by
  rintro rfl
  rw [hd] at hc
  cases hc

theorem isDigitChar_of_mem_toDigits {n : Nat} {c : Char} (h : c ∈ Nat.toDigits 10 n) :
    isDigitChar c = true :=
  Nat.isDigit_of_mem_toDigits (by decide) (by decide) h

theorem digitsValue_toDigits (n : Nat) : digitsValue (Nat.toDigits 10 n) = n :=
  Nat.ofDigitChars_toDigits (by decide) (by decide)

/-- A numeral does not go on behind a zero that it starts with. -/
theorem eq_nil_of_toDigits_eq_zero_cons {n : Nat} {cs : List Char}
    (h : Nat.toDigits 10 n = '0' :: cs) : cs = [] := by
  induction n using Nat.strongRecOn generalizing cs with
  | ind n ih =>
    by_cases hn : n < 10
    · rw [Nat.toDigits_of_lt_base hn] at h
      injection h with _ hcs
      exact hcs.symm
    · rw [Nat.toDigits_of_base_le (by decide) (by omega)] at h
      obtain ⟨c, cs', hfront⟩ :=
        List.exists_cons_of_ne_nil (Nat.toDigits_ne_nil (b := 10) (n := n / 10))
      rw [hfront, List.cons_append] at h
      injection h with hc hcs
      subst hc
      obtain rfl := ih (n / 10) (by omega) hfront
      have hzero : digitsValue (Nat.toDigits 10 (n / 10)) = 0 := by rw [hfront]; rfl
      rw [digitsValue_toDigits] at hzero
      omega

/-- Digits as they stand before a point: some, and none behind a zero in front. -/
structure IsWhole (ds : List Char) : Prop where
  digits : ∀ c ∈ ds, isDigitChar c = true
  ne_nil : ds ≠ []
  zero : ∀ cs, ds = '0' :: cs → cs = []

theorem isWhole_toDigits (n : Nat) : IsWhole (Nat.toDigits 10 n) where
  digits _ := isDigitChar_of_mem_toDigits
  ne_nil := Nat.toDigits_ne_nil
  zero _ := eq_nil_of_toDigits_eq_zero_cons

/-- Digits end where something else stands. -/
theorem span_digits (hds : ∀ c ∈ ds, isDigitChar c = true) (h : EndsDigits rest) :
    (ds ++ rest).takeWhile isDigitChar = ds ∧ (ds ++ rest).dropWhile isDigitChar = rest := by
  rw [List.takeWhile_append_of_pos hds, List.dropWhile_append_of_pos hds]
  cases rest with
  | nil => simp
  | cons c cs => simp [h c cs rfl]

theorem IsWhole.readWhole_append (hds : IsWhole ds) (h : EndsDigits rest) :
    readWhole (ds ++ rest) = (ds, rest) := by
  obtain ⟨c, cs, rfl⟩ := List.exists_cons_of_ne_nil hds.ne_nil
  by_cases hc : c = '0'
  · subst hc
    obtain rfl := hds.zero cs rfl
    rfl
  · have hspan := span_digits hds.digits h
    rw [List.cons_append, readWhole, ← List.cons_append, hspan.1, hspan.2]
    intro _ heq
    exact hc (List.cons.inj heq).1

theorem readFraction_of_ne_point (h : ∀ cs, rest ≠ '.' :: cs) :
    readFraction rest = ([], rest) := by
  unfold readFraction
  split
  · exact absurd rfl (h _)
  · rfl

theorem readFraction_of_endsNumber (h : EndsNumber rest) : readFraction rest = ([], rest) :=
  readFraction_of_ne_point fun cs hcons => (h '.' cs hcons).2.1 rfl

theorem readExponent_of_endsNumber (h : EndsNumber rest) : readExponent rest = (none, rest) := by
  cases rest with
  | nil => rfl
  | cons c cs =>
    obtain ⟨-, -, he, hE⟩ := h c cs rfl
    simp [readExponent, he, hE]

/-- A number is read in parts: a sign, digits, digits behind a point and an exponent. -/
theorem readNumber_parts (negative : Bool) {r r' fraction : List Char} {exponent : Option Int}
    (hds : IsWhole ds) (h : EndsDigits r) (hfraction : readFraction r = (fraction, r'))
    (hexponent : readExponent r' = (exponent, rest)) :
    readNumber digits (signText negative ++ (ds ++ r)) =
      if fraction.isEmpty && exponent.isNone then
        if digits < ds.length then .error (.tooManyDigits ds.length)
        else .ok (.int (if negative then -(digitsValue ds : Int) else digitsValue ds), rest)
      else .ok (.float (Decimal.Double.ofDecimal negative (digitsValue (ds ++ fraction))
        (exponent.getD 0 - fraction.length)), rest) := by
  have hwhole := hds.readWhole_append h
  have hsome : ds.isEmpty = false := by simp [hds.ne_nil]
  cases negative with
  | true => simp [signText, readNumber, hwhole, hsome, hfraction, hexponent]
  | false =>
    have hsign : ∀ cs, ds ++ r ≠ '-' :: cs := by
      intro cs heq
      obtain ⟨d, ds', rfl⟩ := List.exists_cons_of_ne_nil hds.ne_nil
      have hd := hds.digits d List.mem_cons_self
      rw [List.cons_append] at heq
      cases heq
      cases hd
    simp [signText, readNumber, hwhole, hsome, hfraction, hexponent]

/-- A numeral is read as a whole number, unless it has too many digits. -/
theorem readNumber_printInt {n : Int}
    (hn : (Nat.toDigits 10 n.natAbs).length ≤ digits) (h : EndsNumber rest) :
    readNumber digits (printInt n ++ rest) = .ok (.int n, rest) := by
  have hvalue : (if decide (n < 0) = true then -(n.natAbs : Int) else n.natAbs) = n := by
    simp only [decide_eq_true_eq]
    split <;> omega
  rw [printInt_eq, List.append_assoc, readNumber_parts _ (isWhole_toDigits _) h.endsDigits
    (readFraction_of_endsNumber h) (readExponent_of_endsNumber h), digitsValue_toDigits, hvalue]
  simp [Nat.not_lt.mpr hn]

/-- No word stands where a number does. -/
theorem readScalar_eq_readNumber (negative : Bool) (hds : IsWhole ds) :
    readScalar digits (signText negative ++ (ds ++ rest)) =
      readNumber digits (signText negative ++ (ds ++ rest)) := by
  have hword : (words.find? fun w => w.1.isPrefixOf (signText negative ++ (ds ++ rest))) =
      none := by
    obtain ⟨d, ds', rfl⟩ := List.exists_cons_of_ne_nil hds.ne_nil
    have hd := hds.digits d List.mem_cons_self
    have hn : 'n' ≠ d := (ne_of_isDigitChar hd (by decide)).symm
    have ht : 't' ≠ d := (ne_of_isDigitChar hd (by decide)).symm
    have hf : 'f' ≠ d := (ne_of_isDigitChar hd (by decide)).symm
    have hN : 'N' ≠ d := (ne_of_isDigitChar hd (by decide)).symm
    have hI : 'I' ≠ d := (ne_of_isDigitChar hd (by decide)).symm
    have hsign : '-' ≠ d := (ne_of_isDigitChar hd (by decide)).symm
    cases negative with
    | true => simp [signText, words, List.isPrefixOf, hI]
    | false => simp [signText, words, List.isPrefixOf, hn, ht, hf, hN, hI, hsign]
  unfold readScalar
  rw [hword]

/-! Values. -/

/-- A text that a value may start with: no blank, no bracket that closes an array, no mark. -/
def StartsValue (t : List Char) : Prop :=
  ∃ c cs, t = c :: cs ∧ isJsonBlank c = false ∧ c ≠ ']' ∧ c ≠ '\uFEFF'

/-- A text that is read as a value, whatever stands behind it, by a reader that takes whole numbers
of so many digits and so many brackets inside of each other. -/
structure Writes (st : Standins) (digits room : Nat) (t : List Char) (v : Value) : Prop where
  starts : StartsValue t
  reads : ∀ fuel rest, t.length ≤ fuel → EndsNumber rest →
    readValue st digits room fuel (t ++ rest) = .ok (v, rest)

theorem startsValue_cons {c : Char} (cs : List Char)
    (h : isJsonBlank c = false ∧ c ≠ ']' ∧ c ≠ '\uFEFF') : StartsValue (c :: cs) :=
  ⟨c, cs, rfl, h⟩

theorem StartsValue.append (h : StartsValue t) (rest : List Char) : StartsValue (t ++ rest) := by
  obtain ⟨c, cs, rfl, hc⟩ := h
  exact ⟨c, cs ++ rest, rfl, hc⟩

theorem StartsValue.length_pos (h : StartsValue t) : 0 < t.length := by
  obtain ⟨c, cs, rfl, -⟩ := h
  exact Nat.succ_pos _

/-- Blanks in front of a value are skipped. -/
theorem StartsValue.skipBlanks_append (h : StartsValue t) (hgap : gap.all isJsonBlank = true) :
    skipBlanks (gap ++ t) = t := by
  obtain ⟨c, cs, rfl, hc, -⟩ := h
  rw [skipBlanks, List.dropWhile_append_of_pos (List.all_eq_true.mp hgap), List.dropWhile_cons, hc]
  simp

theorem readValue_eq_readScalar {c : Char} (cs : List Char) (fuel : Nat)
    (h : c ≠ '"' ∧ c ≠ '[' ∧ c ≠ '\x7b') :
    readValue st digits room (fuel + 1) (c :: cs) = readScalar digits (c :: cs) := by
  obtain ⟨hstring, harray, hobject⟩ := h
  rw [readValue]
  · exact fun _ hcons => hstring (List.cons.inj hcons).1
  · exact fun _ hcons => harray (List.cons.inj hcons).1
  · exact fun _ hcons => hobject (List.cons.inj hcons).1

/-- Words and numbers are read for themselves. -/
theorem writes_scalar {c : Char} {cs : List Char}
    (hc : isJsonBlank c = false ∧ c ≠ ']' ∧ c ≠ '\uFEFF') (h : c ≠ '"' ∧ c ≠ '[' ∧ c ≠ '\x7b')
    (hread : ∀ rest, EndsNumber rest → readScalar digits (c :: cs ++ rest) = .ok (v, rest)) :
    Writes st digits room (c :: cs) v where
  starts := startsValue_cons cs hc
  reads := by
    intro fuel rest hfuel hrest
    cases fuel with
    | zero => exact absurd hfuel (by simp)
    | succ fuel => exact (readValue_eq_readScalar (cs ++ rest) fuel h).trans (hread rest hrest)

theorem writes_null : Writes st digits room (print .plain .null) .null :=
  writes_scalar (by decide) (by decide) (fun _ _ => rfl)

theorem writes_bool (b : Bool) : Writes st digits room (print .plain (.bool b)) (.bool b) := by
  cases b <;> exact writes_scalar (by decide) (by decide) (fun _ _ => rfl)

theorem writes_infinity :
    Writes st digits room "Infinity".toList (.float (Decimal.Double.infinity false)) :=
  writes_scalar (by decide) (by decide) (fun _ _ => rfl)

/-- A number is a value. -/
theorem writes_number (negative : Bool) (tail : List Char) (hds : IsWhole ds)
    (hread : ∀ rest, EndsNumber rest →
      readNumber digits (signText negative ++ (ds ++ (tail ++ rest))) = .ok (v, rest)) :
    Writes st digits room (signText negative ++ (ds ++ tail)) v := by
  have hscalar : ∀ rest, EndsNumber rest →
      readScalar digits (signText negative ++ (ds ++ tail) ++ rest) = .ok (v, rest) := by
    intro rest hrest
    rw [List.append_assoc, List.append_assoc, readScalar_eq_readNumber negative hds]
    exact hread rest hrest
  obtain ⟨d, ds', rfl⟩ := List.exists_cons_of_ne_nil hds.ne_nil
  have hd := hds.digits d List.mem_cons_self
  cases negative with
  | true => exact writes_scalar (by decide) (by decide) hscalar
  | false =>
    have hne : ∀ {c : Char}, isDigitChar c = false → d ≠ c := ne_of_isDigitChar hd
    have hblank : isJsonBlank d = false := by
      simp [isJsonBlank, hne (c := ' ') (by decide), hne (c := '\t') (by decide),
        hne (c := '\n') (by decide), hne (c := '\r') (by decide)]
    exact writes_scalar ⟨hblank, hne (by decide), hne (by decide)⟩
      ⟨hne (by decide), hne (by decide), hne (by decide)⟩ hscalar

theorem writes_int {n : Int} (hn : (Nat.toDigits 10 n.natAbs).length ≤ digits) :
    Writes st digits room (printInt n) (.int n) := by
  have hnumber : Writes st digits room
      (signText (decide (n < 0)) ++ (Nat.toDigits 10 n.natAbs ++ [])) (.int n) := by
    apply writes_number _ [] (isWhole_toDigits n.natAbs)
    intro rest hrest
    simpa [printInt_eq] using readNumber_printInt hn hrest
  simpa [printInt_eq] using hnumber

theorem writes_str (s : String) : Writes st digits room (printString .plain s) (.str s) where
  starts := startsValue_cons _ (by decide)
  reads := by
    intro fuel rest hfuel _
    cases fuel with
    | zero => simp [printString] at hfuel
    | succ fuel =>
      rw [printString_append, readValue, readString_printString]
      rfl

theorem writes_surrogate {n : Nat} (h : firstSurrogate ≤ n)
    (hlast : n < firstSurrogate + surrogateCount) :
    Writes st digits room ('"' :: (unicodeEscape n ++ ['"']))
      (.str (String.ofList [st.char n])) where
  starts := startsValue_cons _ (by decide)
  reads := by
    intro fuel rest hfuel _
    cases fuel with
    | zero => simp at hfuel
    | succ fuel =>
      rw [List.cons_append, List.append_assoc, List.singleton_append, readValue,
        readString_surrogate _ _ _ h hlast]
      rfl

/-- Texts of items up to the end of their array. Blanks may stand behind the last item and behind
every comma. -/
inductive WritesItems (st : Standins) (digits room : Nat) : List Char → List Value → Prop
  | last {t gap : List Char} {v : Value} (ht : Writes st digits room t v)
      (hgap : gap.all isJsonBlank = true) : WritesItems st digits room (t ++ (gap ++ [']'])) [v]
  | cons {t gap w : List Char} {v : Value} {items : List Value} (ht : Writes st digits room t v)
      (hgap : gap.all isJsonBlank = true) (hw : WritesItems st digits room w items) :
      WritesItems st digits room (t ++ ',' :: (gap ++ w)) (v :: items)

theorem WritesItems.starts (h : WritesItems st digits room w items) : StartsValue w := by
  cases h with
  | last ht => exact ht.starts.append _
  | cons ht => exact ht.starts.append _

/-- Nothing behind an item goes on with a number. -/
theorem endsNumber_gap (hgap : gap.all isJsonBlank = true) (hrest : EndsNumber rest) :
    EndsNumber (gap ++ rest) := by
  cases gap with
  | nil => exact hrest
  | cons c cs =>
    apply endsNumber_cons
    have hc : isJsonBlank c = true := by simp_all
    simp only [isJsonBlank, Bool.or_eq_true, beq_iff_eq] at hc
    rcases hc with ((rfl | rfl) | rfl) | rfl <;> decide

theorem WritesItems.reads (h : WritesItems st digits room w items) (fuel : Nat)
    (done : List Value) (rest : List Char) (hfuel : w.length ≤ fuel) :
    readItems st digits room fuel done (w ++ rest) = .ok (.arr (done.reverse ++ items), rest) := by
  induction h generalizing fuel done with
  | @last t gap v ht hgap =>
    simp only [List.length_append, List.length_cons, List.length_nil] at hfuel
    obtain ⟨fuel, rfl⟩ := Nat.exists_eq_add_of_lt (show 0 < fuel by omega)
    have hvalue := ht.reads (0 + fuel) (gap ++ ']' :: rest) (by omega)
      (endsNumber_gap hgap (endsNumber_cons _ (by decide)))
    have hskip : skipBlanks (gap ++ ']' :: rest) = ']' :: rest := by
      rw [skipBlanks, List.dropWhile_append_of_pos (List.all_eq_true.mp hgap)]
      rfl
    have happend : t ++ (gap ++ [']']) ++ rest = t ++ (gap ++ ']' :: rest) := by simp
    rw [happend, readItems, hvalue]
    simp [bind, Except.bind, hskip]
  | @cons t gap w v items ht hgap hw ih =>
    simp only [List.length_append, List.length_cons] at hfuel
    have hpos := ht.starts.length_pos
    obtain ⟨fuel, rfl⟩ := Nat.exists_eq_add_of_lt (show 0 < fuel by omega)
    have hvalue := ht.reads (0 + fuel) (',' :: (gap ++ (w ++ rest))) (by omega)
      (endsNumber_cons _ (by decide))
    have hskip : skipBlanks (',' :: (gap ++ (w ++ rest))) = ',' :: (gap ++ (w ++ rest)) :=
      rfl
    have hnext := (hw.starts.append rest).skipBlanks_append hgap
    have happend : t ++ ',' :: (gap ++ w) ++ rest = t ++ ',' :: (gap ++ (w ++ rest)) := by simp
    rw [happend, readItems, hvalue]
    simp only [bind, Except.bind, hskip, hnext]
    rw [ih (0 + fuel) (v :: done) (by omega)]
    simp

theorem writes_arr_nil : Writes st digits (room + 1) ['[', ']'] (.arr []) where
  starts := startsValue_cons _ (by decide)
  reads := by
    intro fuel rest hfuel _
    cases fuel with
    | zero => exact absurd hfuel (by simp)
    | succ fuel => rfl

theorem WritesItems.arr (h : WritesItems st digits room w items)
    (hgap : gap.all isJsonBlank = true) :
    Writes st digits (room + 1) ('[' :: (gap ++ w)) (.arr items) where
  starts := startsValue_cons _ (by decide)
  reads := by
    intro fuel rest hfuel _
    simp only [List.length_cons, List.length_append] at hfuel
    obtain ⟨fuel, rfl⟩ := Nat.exists_eq_add_of_lt (show 0 < fuel by omega)
    have hskip := (h.starts.append rest).skipBlanks_append hgap
    have hitems := h.reads (0 + fuel) [] rest (by omega)
    rw [List.cons_append, List.append_assoc, readValue]
    simp only [Nat.add_one_ne_zero, if_false, hskip]
    split
    · rename_i rest' heq
      obtain ⟨c, cs, hcons, -, hc, -⟩ := h.starts.append rest
      rw [hcons] at heq
      exact absurd (List.cons.inj heq).1 hc
    · simpa using hitems

/-- Texts of the entries of an object up to its end, with a blank behind every colon and comma. -/
inductive WritesFields (st : Standins) (digits room : Nat) : List Char → Fields → Prop
  | last {t : List Char} {v : Value} (k : String) (ht : Writes st digits room t v) :
      WritesFields st digits room (printString .plain k ++ ':' :: ' ' :: (t ++ ['\x7d'])) [(k, v)]
  | cons {t w : List Char} {v : Value} {fields : Fields} (k : String)
      (ht : Writes st digits room t v) (hw : WritesFields st digits room w fields) :
      WritesFields st digits room (printString .plain k ++ ':' :: ' ' :: (t ++ ',' :: ' ' :: w))
        ((k, v) :: fields)

theorem WritesFields.starts (h : WritesFields st digits room w fields) : ∃ cs, w = '"' :: cs := by
  cases h <;> exact ⟨_, rfl⟩

theorem WritesFields.reads (h : WritesFields st digits room w fields) (fuel : Nat)
    (done : Fields) (rest : List Char) (hfuel : w.length ≤ fuel) :
    readFields st digits room fuel done (w ++ rest) = .ok (.obj (done.update fields), rest) := by
  induction h generalizing fuel done with
  | @last t v k ht =>
    simp only [List.length_append, List.length_cons, List.length_nil] at hfuel
    obtain ⟨fuel, rfl⟩ := Nat.exists_eq_add_of_lt (show 0 < fuel by omega)
    have hvalue :=
      ht.reads (0 + fuel) ('\x7d' :: rest) (by omega) (endsNumber_cons _ (by decide))
    have hcolon : skipBlanks (':' :: ' ' :: (t ++ '\x7d' :: rest)) =
        ':' :: ' ' :: (t ++ '\x7d' :: rest) := rfl
    have hblank : skipBlanks (' ' :: (t ++ '\x7d' :: rest)) = t ++ '\x7d' :: rest :=
      (ht.starts.append _).skipBlanks_append (show [' '].all isJsonBlank = true from rfl)
    have hend : skipBlanks ('\x7d' :: rest) = '\x7d' :: rest := rfl
    have happend : printString .plain k ++ ':' :: ' ' :: (t ++ ['\x7d']) ++ rest =
        printString .plain k ++ ':' :: ' ' :: (t ++ '\x7d' :: rest) := by simp
    rw [happend, printString_append, readFields, readString_printString]
    simp only [bind, Except.bind, hcolon, hblank, hvalue, hend]
    rfl
  | @cons t w v fields k ht hw ih =>
    simp only [List.length_append, List.length_cons] at hfuel
    obtain ⟨fuel, rfl⟩ := Nat.exists_eq_add_of_lt (show 0 < fuel by omega)
    have hvalue := ht.reads (0 + fuel) (',' :: ' ' :: (w ++ rest)) (by omega)
      (endsNumber_cons _ (by decide))
    have hcolon : skipBlanks (':' :: ' ' :: (t ++ ',' :: ' ' :: (w ++ rest))) =
        ':' :: ' ' :: (t ++ ',' :: ' ' :: (w ++ rest)) := rfl
    have hblank : skipBlanks (' ' :: (t ++ ',' :: ' ' :: (w ++ rest))) =
        t ++ ',' :: ' ' :: (w ++ rest) :=
      (ht.starts.append _).skipBlanks_append (show [' '].all isJsonBlank = true from rfl)
    have hcomma : skipBlanks (',' :: ' ' :: (w ++ rest)) = ',' :: ' ' :: (w ++ rest) := rfl
    have hnext : skipBlanks (' ' :: (w ++ rest)) = w ++ rest := by
      obtain ⟨cs, rfl⟩ := hw.starts
      rfl
    have happend : printString .plain k ++ ':' :: ' ' :: (t ++ ',' :: ' ' :: w) ++ rest =
        printString .plain k ++ ':' :: ' ' :: (t ++ ',' :: ' ' :: (w ++ rest)) := by simp
    rw [happend, printString_append, readFields, readString_printString]
    simp only [bind, Except.bind, hcolon, hblank, hvalue, hcomma, hnext]
    exact ih (0 + fuel) (done.insert k v) (by omega)

theorem writes_obj_nil : Writes st digits (room + 1) ['\x7b', '\x7d'] (.obj []) where
  starts := startsValue_cons _ (by decide)
  reads := by
    intro fuel rest hfuel _
    cases fuel with
    | zero => exact absurd hfuel (by simp)
    | succ fuel => rfl

theorem WritesFields.obj (h : WritesFields st digits room w fields) :
    Writes st digits (room + 1) ('\x7b' :: w) (.obj (Fields.ofEntries fields)) where
  starts := startsValue_cons _ (by decide)
  reads := by
    intro fuel rest hfuel _
    simp only [List.length_cons] at hfuel
    obtain ⟨fuel, rfl⟩ := Nat.exists_eq_add_of_lt (show 0 < fuel by omega)
    have hfields := h.reads (0 + fuel) [] rest (by omega)
    obtain ⟨cs, rfl⟩ := h.starts
    have hskip : skipBlanks ('"' :: (cs ++ rest)) = '"' :: (cs ++ rest) := rfl
    rw [List.cons_append, List.cons_append, readValue]
    simp only [Nat.add_one_ne_zero, if_false, hskip]
    exact hfields

/-- Values without floating point numbers, with whole numbers of so many digits at most, distinct
keys, and no more brackets inside of each other than there is room for. -/
inductive Rereadable (digits : Nat) : Nat → Value → Prop
  | null (room : Nat) : Rereadable digits room .null
  | bool (room : Nat) (b : Bool) : Rereadable digits room (.bool b)
  | int (room : Nat) {n : Int} (hn : (Nat.toDigits 10 n.natAbs).length ≤ digits) :
      Rereadable digits room (.int n)
  | str (room : Nat) (s : String) : Rereadable digits room (.str s)
  | arr {room : Nat} {items : List Value} (h : ∀ v ∈ items, Rereadable digits room v) :
      Rereadable digits (room + 1) (.arr items)
  | obj {room : Nat} {fields : Fields} (hkeys : fields.keys.Nodup)
      (h : ∀ f ∈ fields, Rereadable digits room f.2) : Rereadable digits (room + 1) (.obj fields)

theorem itemsObstacle?_eq_findSome? :
    itemsObstacle? digits room items = items.findSome? (obstacle? digits room) := by
  induction items with
  | nil => rfl
  | cons v rest ih =>
    rw [itemsObstacle?, ih, List.findSome?_cons]
    cases obstacle? digits room v <;> rfl

theorem fieldsObstacle?_eq_findSome? :
    fieldsObstacle? digits room fields = fields.findSome? fun f => obstacle? digits room f.2 := by
  induction fields with
  | nil => rfl
  | cons f rest ih =>
    rw [fieldsObstacle?, ih, List.findSome?_cons]
    cases obstacle? digits room f.2 <;> rfl

/-- What can be read back can be written. -/
theorem obstacle?_of_rereadable (h : Rereadable digits room v) :
    obstacle? digits room v = none := by
  induction h with
  | null room | bool room b | str room s => cases room <;> rfl
  | @int room n hn =>
    have hshort : isTooLong digits n = false := by simpa [isTooLong] using hn
    cases room <;> simp [obstacle?, hshort]
  | arr _ ih => rw [obstacle?, itemsObstacle?_eq_findSome?, List.findSome?_eq_none_iff.mpr ih]
  | obj _ _ ih => rw [obstacle?, fieldsObstacle?_eq_findSome?, List.findSome?_eq_none_iff.mpr ih]

section Printing

variable {f : Value → Value}

theorem writesItems_printItems (hsome : items ≠ [])
    (h : ∀ v ∈ items, Writes st digits room (print .plain v) (f v)) :
    WritesItems st digits room (printItems .plain items ++ [']']) (items.map f) := by
  induction items with
  | nil => exact absurd rfl hsome
  | cons v rest ih =>
    have hv := h v List.mem_cons_self
    cases rest with
    | nil => exact .last hv List.all_nil
    | cons v' rest =>
      have hrest := ih (by simp) fun w hw => h w (List.mem_cons_of_mem v hw)
      have hprint : printItems .plain (v :: v' :: rest) ++ [']'] =
          print .plain v ++ ',' :: ([' '] ++ (printItems .plain (v' :: rest) ++ [']'])) := by
        simp [printItems]
      rw [hprint]
      exact .cons hv rfl hrest

/-- An array is printed as one if its items are printed as what they are read as. -/
theorem writes_arr (h : ∀ v ∈ items, Writes st digits room (print .plain v) (f v)) :
    Writes st digits (room + 1) (print .plain (.arr items)) (.arr (items.map f)) := by
  have hprint : print .plain (.arr items) = '[' :: ([] ++ (printItems .plain items ++ [']'])) := by
    simp [print]
  rw [hprint]
  cases items with
  | nil => exact writes_arr_nil
  | cons v rest => exact (writesItems_printItems (by simp) h).arr rfl

theorem writesFields_printFields (hsome : fields ≠ [])
    (h : ∀ g ∈ fields, Writes st digits room (print .plain g.2) (f g.2)) :
    WritesFields st digits room (printFields .plain fields ++ ['\x7d'])
      (fields.map fun g => (g.1, f g.2)) := by
  induction fields with
  | nil => exact absurd rfl hsome
  | cons g rest ih =>
    obtain ⟨k, v⟩ := g
    have hv := h (k, v) List.mem_cons_self
    cases rest with
    | nil =>
      have hprint : printFields .plain [(k, v)] ++ ['\x7d'] =
          printString .plain k ++ ':' :: ' ' :: (print .plain v ++ ['\x7d']) := by
        simp [printFields]
      rw [hprint]
      exact .last k hv
    | cons g' rest =>
      have hrest := ih (by simp) fun g hg => h g (List.mem_cons_of_mem _ hg)
      have hprint : printFields .plain ((k, v) :: g' :: rest) ++ ['\x7d'] =
          printString .plain k ++ ':' :: ' ' :: (print .plain v ++ ',' :: ' ' ::
            (printFields .plain (g' :: rest) ++ ['\x7d'])) := by
        simp [printFields]
      rw [hprint]
      exact .cons k hv hrest

/-- An object of distinct keys is printed as one. -/
theorem writes_obj (hkeys : fields.keys.Nodup)
    (h : ∀ g ∈ fields, Writes st digits room (print .plain g.2) (f g.2)) :
    Writes st digits (room + 1) (print .plain (.obj fields))
      (.obj (fields.map fun g => (g.1, f g.2))) := by
  have hprint : print .plain (.obj fields) = '\x7b' :: (printFields .plain fields ++ ['\x7d']) := by
    simp [print]
  rw [hprint]
  cases fields with
  | nil => exact writes_obj_nil
  | cons g rest =>
    have hobj := (writesFields_printFields (by simp) h).obj
    rw [Fields.ofEntries_of_nodup] at hobj
    · exact hobj
    · simpa [Fields.keys, Function.comp_def] using hkeys

end Printing

/-- What a value is printed as is read as the value. -/
theorem writes_print (h : Rereadable digits room v) : Writes st digits room (print .plain v) v := by
  induction h with
  | null => exact writes_null
  | bool room b => exact writes_bool b
  | int room hn => exact writes_int hn
  | str room s => exact writes_str s
  | arr _ ih => simpa using writes_arr (f := id) ih
  | obj hkeys _ ih => simpa using writes_obj (f := id) hkeys ih

/-! Documents. -/

/-- A text that writes a value is a document of it, also with blanks behind. -/
theorem readText_of_writes (h : Writes codec.standins codec.digits codec.room t v)
    (hgap : gap.all isJsonBlank = true) : readText codec (t ++ gap) = .ok v := by
  have hend : skipBlanks gap = [] := by
    rw [← List.append_nil gap, skipBlanks,
      List.dropWhile_append_of_pos (List.all_eq_true.mp hgap)]
    rfl
  have hvalue := h.reads (2 * (t ++ gap).length + 2) gap (by simp; omega)
    (by simpa using endsNumber_gap hgap endsNumber_nil)
  have hskip : skipBlanks (t ++ gap) = t ++ gap :=
    (h.starts.append gap).skipBlanks_append List.all_nil
  unfold readText
  split
  · rename_i heq
    obtain ⟨c, cs, hcons, -, -, hc⟩ := h.starts.append gap
    rw [hcons] at heq
    exact absurd (List.cons.inj heq).1 hc
  · simp only [bind, Except.bind, hskip, hvalue, hend]
    rfl

theorem parse_of_writes {s : String} (h : Writes codec.standins codec.digits codec.room t v)
    (hgap : gap.all isJsonBlank = true) (hs : s.toList = t ++ gap) : parse codec s = .ok v := by
  rw [parse, hs, readText_of_writes h hgap]
  rfl

/-- A codec of numbers of the usual length and of 64 brackets inside of each other. -/
def Codec.ample : Codec :=
  ⟨Text.maxDigits, 64, .last⟩

/-- A value is read back from its text. -/
theorem parse_toJson (h : Rereadable codec.digits codec.room v) :
    parse codec (v.toJson .plain) = .ok v :=
  parse_of_writes (writes_print h) List.all_nil (by simp [Value.toJson])

/-! Files. -/

/-- A file of the text of a value. -/
def File.ofValue (v : Value) : File :=
  .bytes (Text.encodeUtf8 (v.toJson .plain))

/-- The bytes of a text without carriage returns are read as the text is. -/
theorem parseBytes_encodeUtf8 {s : String} (hlines : '\r' ∉ s.toList) :
    parseBytes codec (Text.encodeUtf8 s) = (parse codec s).mapError .json := by
  rw [parseBytes, Text.decodeUtf8_encodeUtf8]
  simp only [Text.normalizeNewlines_of_notMem hlines]

theorem parseBytes_toJson (v : Value) :
    parseBytes codec (Text.encodeUtf8 (v.toJson .plain)) =
      (parse codec (v.toJson .plain)).mapError .json := by
  apply parseBytes_encodeUtf8
  rw [Value.toJson, String.toList_ofList]
  exact (isVisible_print .plain v).notMem (by decide)

/-- A value is read back from a file of its text. -/
theorem read_ofValue (h : Rereadable codec.digits codec.room v) (path : String) :
    (File.ofValue v).read codec path = .ok v := by
  rw [File.ofValue, File.read, parseBytes_toJson, parse_toJson h]
  rfl

end PeopleFeed.Json
