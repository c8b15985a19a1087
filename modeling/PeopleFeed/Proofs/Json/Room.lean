import PeopleFeed.Json.File

/-! Room for brackets inside of each other. More of it changes nothing of what is read with less,
unless that was too little. -/
namespace PeopleFeed.Json

open PeopleFeed.Text (Standins)

variable {α β : Type} {st : Standins} {digits room more fuel : Nat} {content : List UInt8}

/-- A reading that does not run out of room. -/
def HasRoom (x : Except Stop α) : Prop :=
  ∀ bracket, x ≠ .error (.tooDeep bracket)

theorem not_hasRoom (bracket : Bracket) : ¬HasRoom (.error (.tooDeep bracket) : Except Stop α) :=
  fun h => h bracket rfl

/-- Two readings after each other stay as they are if each of them does. -/
theorem bind_of_hasRoom {x x' : Except Stop α} {f f' : α → Except Stop β}
    (hx : HasRoom x → x' = x) (hf : ∀ a, HasRoom (f a) → f' a = f a) (h : HasRoom (x >>= f)) :
    (x' >>= f') = x >>= f := by
  cases x with
  | error stop =>
    have hroom : HasRoom (.error stop : Except Stop α) := by
      rintro bracket ⟨⟩
      exact not_hasRoom bracket h
    rw [hx hroom]
    rfl
  | ok a =>
    rw [hx nofun]
    exact hf a h

/-- With so much fuel more room changes nothing. -/
structure Settled (st : Standins) (digits fuel : Nat) : Prop where
  value {room more : Nat} (hle : room ≤ more) (cs : List Char)
    (h : HasRoom (readValue st digits room fuel cs)) :
    readValue st digits more fuel cs = readValue st digits room fuel cs
  items {room more : Nat} (hle : room ≤ more) (done : List Value) (cs : List Char)
    (h : HasRoom (readItems st digits room fuel done cs)) :
    readItems st digits more fuel done cs = readItems st digits room fuel done cs
  fields {room more : Nat} (hle : room ≤ more) (done : Fields) (cs : List Char)
    (h : HasRoom (readFields st digits room fuel done cs)) :
    readFields st digits more fuel done cs = readFields st digits room fuel done cs

theorem Settled.value_succ (hfuel : Settled st digits fuel) (hle : room ≤ more) (cs : List Char)
    (h : HasRoom (readValue st digits room (fuel + 1) cs)) :
    readValue st digits more (fuel + 1) cs = readValue st digits room (fuel + 1) cs := by
  unfold readValue at h ⊢
  split
  · rfl
  -- What is inside of a bracket has one room less.
  · cases room with
    | zero => exact absurd h (not_hasRoom .array)
    | succ room =>
      obtain ⟨more, rfl⟩ := Nat.exists_eq_succ_of_ne_zero (Nat.ne_of_gt (Nat.zero_lt_of_lt hle))
      simp only [Nat.succ_ne_zero, if_false, Nat.add_sub_cancel, Nat.succ_eq_add_one] at h ⊢
      split
      · rfl
      · simp only at h
        exact hfuel.items (Nat.le_of_succ_le_succ hle) [] _ h
  · cases room with
    | zero => exact absurd h (not_hasRoom .object)
    | succ room =>
      obtain ⟨more, rfl⟩ := Nat.exists_eq_succ_of_ne_zero (Nat.ne_of_gt (Nat.zero_lt_of_lt hle))
      simp only [Nat.succ_ne_zero, if_false, Nat.add_sub_cancel, Nat.succ_eq_add_one] at h ⊢
      split
      · rfl
      · simp only at h
        exact hfuel.fields (Nat.le_of_succ_le_succ hle) [] _ h
  · rfl

theorem Settled.items_succ (hfuel : Settled st digits fuel) (hle : room ≤ more)
    (done : List Value) (cs : List Char)
    (h : HasRoom (readItems st digits room (fuel + 1) done cs)) :
    readItems st digits more (fuel + 1) done cs = readItems st digits room (fuel + 1) done cs := by
  unfold readItems at h ⊢
  refine bind_of_hasRoom (hfuel.value hle cs) ?_ h
  rintro ⟨v, rest⟩ hrest
  dsimp only at hrest ⊢
  split
  · rfl
  · rename_i hcomma
    simp only [hcomma] at hrest
    exact hfuel.items hle _ _ hrest
  · rfl

theorem Settled.fields_succ (hfuel : Settled st digits fuel) (hle : room ≤ more)
    (done : Fields) (cs : List Char)
    (h : HasRoom (readFields st digits room (fuel + 1) done cs)) :
    readFields st digits more (fuel + 1) done cs =
      readFields st digits room (fuel + 1) done cs := by
  unfold readFields at h ⊢
  split
  · refine bind_of_hasRoom (fun _ => rfl) ?_ h
    rintro ⟨key, rest⟩ hrest
    dsimp only at hrest ⊢
    split
    · rename_i hcolon
      simp only [hcolon] at hrest
      refine bind_of_hasRoom (hfuel.value hle _) ?_ hrest
      rintro ⟨v, rest⟩ hrest
      dsimp only at hrest ⊢
      split
      · rfl
      · rename_i hcomma
        simp only [hcomma] at hrest
        exact hfuel.fields hle _ _ hrest
      · rfl
    · rfl
  · rfl

theorem settled (st : Standins) (digits fuel : Nat) : Settled st digits fuel := by
  induction fuel with
  | zero => exact ⟨fun _ _ _ => rfl, fun _ _ _ _ => rfl, fun _ _ _ _ => rfl⟩
  | succ fuel ih => exact ⟨ih.value_succ, ih.items_succ, ih.fields_succ⟩

theorem readText_of_more (hle : room ≤ more) (cs : List Char)
    (h : HasRoom (readText ⟨digits, room, st⟩ cs)) :
    readText ⟨digits, more, st⟩ cs = readText ⟨digits, room, st⟩ cs := by
  unfold readText at h ⊢
  split
  · rfl
  · rename_i hmark
    split at h
    · exact (hmark _ rfl).elim
    · exact bind_of_hasRoom ((settled st digits _).value hle _) (fun _ _ => rfl) h

/-- Bytes are read without running out of room. -/
def FitsIn (codec : Codec) (content : List UInt8) : Prop :=
  ∀ bracket, parseBytes codec content ≠ .error (.json (.tooDeep bracket))

theorem parseBytes_of_more (hle : room ≤ more) (h : FitsIn ⟨digits, room, st⟩ content) :
    parseBytes ⟨digits, more, st⟩ content = parseBytes ⟨digits, room, st⟩ content := by
  unfold FitsIn at h
  unfold parseBytes at h ⊢
  cases hdecode : Text.decodeUtf8 content with
  | error e => rfl
  | ok text =>
    simp only [hdecode, parse] at h ⊢
    have hroom : HasRoom (readText ⟨digits, room, st⟩ (Text.normalizeNewlines text).toList) := by
      intro bracket hdeep
      rw [hdeep] at h
      exact h bracket rfl
    rw [readText_of_more hle _ hroom]

/-- Where bytes do not run out of room they are read alike, however much room there is. -/
theorem parseBytes_eq_of_fitsIn (h : FitsIn ⟨digits, room, st⟩ content)
    (hmore : FitsIn ⟨digits, more, st⟩ content) :
    parseBytes ⟨digits, room, st⟩ content = parseBytes ⟨digits, more, st⟩ content := by
  rcases Nat.le_total room more with hle | hle
  · exact (parseBytes_of_more hle h).symm
  · exact parseBytes_of_more hle hmore

end PeopleFeed.Json
