import PeopleFeed.Text.Utf8

/-! A text is decoded from the bytes that encode it. Numbers stand for bytes as long as they are
small enough, and the bits of a code point are counted by dividing it. -/
namespace PeopleFeed.Text

variable {position : Nat} {read : List Char} {a b c d : UInt8} {rest : List UInt8}

theorem decodeUtf8From_one (ha : a < 0x80) :
    decodeUtf8From position read (a :: rest) =
      decodeUtf8From (position + 1) (codePoint a.toNat [] :: read) rest := by
  rw [decodeUtf8From.eq_def]
  simp [ha]

/-- The first byte of a sequence of more than one byte. -/
def isLeading (a : UInt8) : Bool :=
  0xC2 ≤ a && a < 0xF5

theorem not_lt_of_isLeading (h : isLeading a = true) :
    ¬ a < 0x80 ∧ (a < 0xC2 || 0xF5 ≤ a) = false := by
  simp only [isLeading, Bool.and_eq_true, decide_eq_true_eq, UInt8.le_iff_toNat_le,
    UInt8.lt_iff_toNat_lt] at h
  simp [UInt8.le_iff_toNat_le, UInt8.lt_iff_toNat_lt] at h ⊢
  omega

theorem decodeUtf8From_two (h : isLeading a = true) (ha : a < 0xE0) (hb : isSecond a b = true) :
    decodeUtf8From position read (a :: b :: rest) =
      decodeUtf8From (position + 2) (codePoint (a.toNat - 0xC0) [b] :: read) rest := by
  obtain ⟨hone, hbad⟩ := not_lt_of_isLeading h
  rw [decodeUtf8From.eq_def]
  simp only [hone, hbad, hb, ha]
  simp

theorem decodeUtf8From_three (h : isLeading a = true) (htwo : ¬ a < 0xE0) (ha : a < 0xF0)
    (hb : isSecond a b = true) (hc : isContinuation c = true) :
    decodeUtf8From position read (a :: b :: c :: rest) =
      decodeUtf8From (position + 3) (codePoint (a.toNat - 0xE0) [b, c] :: read) rest := by
  obtain ⟨hone, hbad⟩ := not_lt_of_isLeading h
  rw [decodeUtf8From.eq_def]
  simp only [hone, hbad, hb, htwo, hc, ha]
  simp

theorem decodeUtf8From_four (h : isLeading a = true) (ha : ¬ a < 0xF0) (hb : isSecond a b = true)
    (hc : isContinuation c = true) (hd : isContinuation d = true) :
    decodeUtf8From position read (a :: b :: c :: d :: rest) =
      decodeUtf8From (position + 4) (codePoint (a.toNat - 0xF0) [b, c, d] :: read) rest := by
  obtain ⟨hone, hbad⟩ := not_lt_of_isLeading h
  have htwo : ¬ a < 0xE0 := by
    simp only [UInt8.lt_iff_toNat_lt] at ha ⊢
    simp at ha ⊢
    omega
  rw [decodeUtf8From.eq_def]
  simp only [hone, hbad, hb, htwo, hc, hd, ha]
  simp

theorem toNat_ofNat_of_lt {n : Nat} (h : n < 0x100) : (UInt8.ofNat n).toNat = n := by
  rw [UInt8.toNat_ofNat', Nat.mod_eq_of_lt h]

theorem ofNat_lt {n m : Nat} (h : n < m) (hm : m < 0x100) : UInt8.ofNat n < UInt8.ofNat m := by
  rw [UInt8.lt_iff_toNat_lt, toNat_ofNat_of_lt (Nat.lt_trans h hm), toNat_ofNat_of_lt hm]
  exact h

theorem ofNat_le {n m : Nat} (h : n ≤ m) (hm : m < 0x100) : UInt8.ofNat n ≤ UInt8.ofNat m := by
  rw [UInt8.le_iff_toNat_le, toNat_ofNat_of_lt (Nat.lt_of_le_of_lt h hm), toNat_ofNat_of_lt hm]
  exact h

theorem isLeading_ofNat {n : Nat} (hlow : 0xC2 ≤ n) (hhigh : n < 0xF5) :
    isLeading (UInt8.ofNat n) = true := by
  have h1 : (0xC2 : UInt8) ≤ UInt8.ofNat n := ofNat_le hlow (by omega)
  have h2 : UInt8.ofNat n < 0xF5 := ofNat_lt hhigh (by decide)
  simp only [isLeading, h1, h2]
  rfl

/-- A byte that carries six bits may follow. -/
theorem isContinuation_ofNat {n : Nat} (h : n < 64) :
    isContinuation (UInt8.ofNat (n + 128)) = true := by
  have hbyte : (UInt8.ofNat (n + 128)).toNat = n + 128 := toNat_ofNat_of_lt (by omega)
  simp only [isContinuation, UInt8.le_iff_toNat_le, UInt8.lt_iff_toNat_lt, hbyte]
  simp
  omega

/-- The bytes that may come second, by the bits that they carry. -/
theorem isSecond_ofNat (first n : Nat) (hfirst : first < 0x100) (hn : n < 64)
    (hE0 : first = 0xE0 → 0x20 ≤ n) (hED : first = 0xED → n < 0x20) (hF0 : first = 0xF0 → 0x10 ≤ n)
    (hF4 : first = 0xF4 → n < 0x10) :
    isSecond (UInt8.ofNat first) (UInt8.ofNat (n + 128)) = true := by
  have hsame (m : Nat) (hm : m < 0x100) :
      (UInt8.ofNat first == UInt8.ofNat m) = decide (first = m) := by
    rw [Bool.eq_iff_iff, beq_iff_eq, decide_eq_true_eq]
    constructor
    · intro heq
      have hnat := congrArg UInt8.toNat heq
      rwa [toNat_ofNat_of_lt hfirst, toNat_ofNat_of_lt hm] at hnat
    · rintro rfl
      rfl
  have hE0' : (UInt8.ofNat first == 0xE0) = decide (first = 0xE0) := hsame 0xE0 (by decide)
  have hED' : (UInt8.ofNat first == 0xED) = decide (first = 0xED) := hsame 0xED (by decide)
  have hF0' : (UInt8.ofNat first == 0xF0) = decide (first = 0xF0) := hsame 0xF0 (by decide)
  have hF4' : (UInt8.ofNat first == 0xF4) = decide (first = 0xF4) := hsame 0xF4 (by decide)
  simp only [isSecond, isContinuation_ofNat hn, hE0', hED', hF0', hF4', Bool.true_and,
    decide_eq_true_eq]
  split
  · exact decide_eq_true (ofNat_le (n := 0xA0) (by omega) (by omega))
  · split
    · exact decide_eq_true (ofNat_lt (m := 0xA0) (by omega) (by decide))
    · split
      · exact decide_eq_true (ofNat_le (n := 0x90) (by omega) (by omega))
      · split
        · exact decide_eq_true (ofNat_lt (m := 0x90) (by omega) (by decide))
        · rfl

/-- Bytes that carry six bits each make up a code point. -/
theorem codePoint_ofNat (payload : Nat) (ns : List Nat) (h : ∀ n ∈ ns, n < 64) :
    codePoint payload (ns.map fun n => UInt8.ofNat (n + 128)) =
      Char.ofNat (ns.foldl (fun v n => v * 64 + n) payload) := by
  unfold codePoint
  congr 1
  induction ns generalizing payload with
  | nil => rfl
  | cons n ns ih =>
    obtain ⟨hn, hns⟩ := List.forall_mem_cons.mp h
    have hbyte : (UInt8.ofNat (n + 128)).toNat - 0x80 = n := by
      rw [toNat_ofNat_of_lt (by omega)]
      omega
    rw [List.map_cons, List.foldl_cons, List.foldl_cons, hbyte, ih _ hns]

variable {v : Nat}

theorem decodeUtf8From_encoded_one (hv : v < 0x80) :
    decodeUtf8From position read (UInt8.ofNat v :: rest) =
      decodeUtf8From (position + 1) (Char.ofNat v :: read) rest := by
  rw [decodeUtf8From_one (ofNat_lt hv (by decide)), toNat_ofNat_of_lt (by omega)]
  rfl

theorem decodeUtf8From_encoded_two (hlow : 0x80 ≤ v) (hhigh : v < 0x800) :
    decodeUtf8From position read
        (UInt8.ofNat (v / 64 % 32 + 192) :: UInt8.ofNat (v % 64 + 128) :: rest) =
      decodeUtf8From (position + 2) (Char.ofNat v :: read) rest := by
  have hsecond := isSecond_ofNat (v / 64 % 32 + 192) (v % 64) (by omega) (by omega) (by omega)
    (by omega) (by omega) (by omega)
  have hcode : codePoint (v / 64 % 32) [UInt8.ofNat (v % 64 + 128)] = Char.ofNat v := by
    have hvalue : v / 64 % 32 * 64 + v % 64 = v := by omega
    exact (codePoint_ofNat _ [v % 64] (by simp; omega)).trans (congrArg Char.ofNat hvalue)
  have htwo : UInt8.ofNat (v / 64 % 32 + 192) < 0xE0 :=
    ofNat_lt (m := 0xE0) (by omega) (by decide)
  rw [decodeUtf8From_two (isLeading_ofNat (by omega) (by omega)) htwo hsecond,
    toNat_ofNat_of_lt (by omega), Nat.add_sub_cancel, hcode]

theorem decodeUtf8From_encoded_three (hlow : 0x800 ≤ v) (hhigh : v < 0x10000)
    (hvalid : v < 0xD800 ∨ 0xDFFF < v) :
    decodeUtf8From position read
        (UInt8.ofNat (v / 4096 % 16 + 224) :: UInt8.ofNat (v / 64 % 64 + 128) ::
          UInt8.ofNat (v % 64 + 128) :: rest) =
      decodeUtf8From (position + 3) (Char.ofNat v :: read) rest := by
  have hsecond := isSecond_ofNat (v / 4096 % 16 + 224) (v / 64 % 64) (by omega) (by omega)
    (by omega) (by omega) (by omega) (by omega)
  have htwo : ¬ UInt8.ofNat (v / 4096 % 16 + 224) < 0xE0 :=
    UInt8.not_lt.mpr (ofNat_le (n := 0xE0) (by omega) (by omega))
  have hcode : codePoint (v / 4096 % 16)
      [UInt8.ofNat (v / 64 % 64 + 128), UInt8.ofNat (v % 64 + 128)] = Char.ofNat v := by
    have hvalue : (v / 4096 % 16 * 64 + v / 64 % 64) * 64 + v % 64 = v := by omega
    exact (codePoint_ofNat _ [v / 64 % 64, v % 64] (by simp; omega)).trans
      (congrArg Char.ofNat hvalue)
  have hthree : UInt8.ofNat (v / 4096 % 16 + 224) < 0xF0 :=
    ofNat_lt (m := 0xF0) (by omega) (by decide)
  rw [decodeUtf8From_three (isLeading_ofNat (by omega) (by omega)) htwo hthree hsecond
    (isContinuation_ofNat (by omega)), toNat_ofNat_of_lt (by omega), Nat.add_sub_cancel, hcode]

theorem decodeUtf8From_encoded_four (hlow : 0x10000 ≤ v) (hhigh : v < 0x110000) :
    decodeUtf8From position read
        (UInt8.ofNat (v / 262144 % 8 + 240) :: UInt8.ofNat (v / 4096 % 64 + 128) ::
          UInt8.ofNat (v / 64 % 64 + 128) :: UInt8.ofNat (v % 64 + 128) :: rest) =
      decodeUtf8From (position + 4) (Char.ofNat v :: read) rest := by
  have hsecond := isSecond_ofNat (v / 262144 % 8 + 240) (v / 4096 % 64) (by omega) (by omega)
    (by omega) (by omega) (by omega) (by omega)
  have hthree : ¬ UInt8.ofNat (v / 262144 % 8 + 240) < 0xF0 :=
    UInt8.not_lt.mpr (ofNat_le (n := 0xF0) (by omega) (by omega))
  have hcode : codePoint (v / 262144 % 8)
      [UInt8.ofNat (v / 4096 % 64 + 128), UInt8.ofNat (v / 64 % 64 + 128),
        UInt8.ofNat (v % 64 + 128)] = Char.ofNat v := by
    have hvalue : ((v / 262144 % 8 * 64 + v / 4096 % 64) * 64 + v / 64 % 64) * 64 + v % 64 = v := by
      omega
    exact (codePoint_ofNat _ [v / 4096 % 64, v / 64 % 64, v % 64] (by simp; omega)).trans
      (congrArg Char.ofNat hvalue)
  rw [decodeUtf8From_four (isLeading_ofNat (by omega) (by omega)) hthree hsecond
    (isContinuation_ofNat (by omega)) (isContinuation_ofNat (by omega)),
    toNat_ofNat_of_lt (by omega), Nat.add_sub_cancel, hcode]

/-- A character is decoded from its encoding, whatever stands behind it. -/
theorem decodeUtf8From_encoded (position : Nat) (read : List Char) (c : Char)
    (rest : List UInt8) :
    ∃ next, decodeUtf8From position read (String.utf8EncodeChar c ++ rest) =
      decodeUtf8From next (c :: read) rest := by
  have hvalid : c.val.toNat < 0xD800 ∨ 0xDFFF < c.val.toNat ∧ c.val.toNat < 0x110000 := c.valid
  have hchar : Char.ofNat c.val.toNat = c := Char.ofNat_toNat c
  unfold String.utf8EncodeChar
  generalize c.val.toNat = v at hvalid hchar
  subst hchar
  simp only
  split
  · exact ⟨_, decodeUtf8From_encoded_one (by omega)⟩
  · split
    · exact ⟨_, decodeUtf8From_encoded_two (by omega) (by omega)⟩
    · split
      · exact ⟨_, decodeUtf8From_encoded_three (by omega) (by omega) (by omega)⟩
      · exact ⟨_, decodeUtf8From_encoded_four (by omega) (by omega)⟩

theorem decodeUtf8From_flatMap (position : Nat) (read cs : List Char) :
    decodeUtf8From position read (cs.flatMap String.utf8EncodeChar) = .ok (read.reverse ++ cs) := by
  induction cs generalizing position read with
  | nil => simp [decodeUtf8From]
  | cons c cs ih =>
    obtain ⟨next, hnext⟩ :=
      decodeUtf8From_encoded position read c (cs.flatMap String.utf8EncodeChar)
    rw [List.flatMap_cons, hnext, ih]
    simp

/-- A text is decoded from the bytes that encode it. -/
theorem decodeUtf8_encodeUtf8 (s : String) : decodeUtf8 (encodeUtf8 s) = .ok s := by
  have hbytes : encodeUtf8 s = s.toList.flatMap String.utf8EncodeChar := by
    have hs : s.toByteArray = s.toList.utf8Encode := by
      rw [← String.toByteArray_ofList, String.ofList_toList]
    simp [encodeUtf8, hs, List.utf8Encode]
  rw [hbytes, decodeUtf8, decodeUtf8From_flatMap]
  exact congrArg Except.ok (String.ofList_toList)

end PeopleFeed.Text
