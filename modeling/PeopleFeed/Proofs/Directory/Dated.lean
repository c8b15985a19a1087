import PeopleFeed.Proofs.Directory.Upsert
import Mathlib.Data.List.Induction

/-! Entries with the times of their keys. An entry that is put among others takes the place of the
one of its key and leaves the time there, or comes last at a new time. To put all of some entries
twice is to put them once. -/
namespace PeopleFeed.Directory

variable {α β ε κ : Type} [DecidableEq κ] {key : ε → κ} {isSame : α → Bool} {change : α → α}
  {new : α}

@[simp] theorem upsert_nil : upsert isSame change new [] = [new] := rfl

@[simp] theorem upsert_cons (r : α) (rest : List α) :
    upsert isSame change new (r :: rest) =
      if isSame r then change r :: rest else r :: upsert isSame change new rest := by
  by_cases h : isSame r = true
  · simp [upsert, replaceRow?, h]
  · cases hrest : replaceRow? isSame change rest <;> simp [upsert, replaceRow?, h, hrest]

theorem map_upsert (f : α → β) {isSame' : β → Bool} {change' : β → β}
    (hsame : ∀ r, isSame' (f r) = isSame r) (hchange : ∀ r, change' (f r) = f (change r))
    (rows : List α) :
    (upsert isSame change new rows).map f = upsert isSame' change' (f new) (rows.map f) := by
  induction rows with
  | nil => rfl
  | cons r rest ih => by_cases h : isSame r = true <;> simp [hsame, hchange, h, ih]

/-- The entry of a key among entries with their times. -/
def entryOf? (key : ε → κ) (rows : List (ε × Nat)) (k : κ) : Option (ε × Nat) :=
  rows.find? (key ·.1 == k)

/-- Puts an entry among others, at the time of its key unless there is one of the key. -/
def putEntry (key : ε → κ) (time : κ → Nat) (rows : List (ε × Nat)) (e : ε) : List (ε × Nat) :=
  upsert (key ·.1 == key e) (fun r => (e, r.2)) (e, time (key e)) rows

/-- Puts entries among others, one after the other. -/
def putAll (key : ε → κ) (time : κ → Nat) (rows : List (ε × Nat)) (es : List ε) : List (ε × Nat) :=
  es.foldl (putEntry key time) rows

section

variable {time : κ → Nat} {rows : List (ε × Nat)} {a b e : ε} {es : List ε} {k : κ}
  {n : Nat}

theorem entryOf?_putEntry (rows : List (ε × Nat)) (e : ε) (k : κ) :
    entryOf? key (putEntry key time rows e) k =
      if key e = k then some (e, ((entryOf? key rows k).map (·.2)).getD (time k))
      else entryOf? key rows k := by
  unfold entryOf? putEntry
  induction rows with
  | nil => by_cases h : key e = k <;> simp [h]
  | cons r rest ih =>
    by_cases hr : key r.1 = key e
    · by_cases h : key e = k <;> simp [hr, h]
    · by_cases h : key e = k
      · subst h
        simpa [hr] using ih
      · by_cases hk : key r.1 = k
        · subst hk
          simp [hr, h]
        · simpa [hr, h, hk] using ih

theorem isSome_entryOf?_putEntry (h : (entryOf? key rows k).isSome) (e : ε) :
    (entryOf? key (putEntry key time rows e) k).isSome := by
  rw [entryOf?_putEntry]
  split
  · rfl
  · exact h

/-- An entry that is there already changes nothing. -/
theorem putEntry_of_entryOf? (h : entryOf? key rows (key e) = some (e, n)) :
    putEntry key time rows e = rows := by
  unfold entryOf? at h
  unfold putEntry
  induction rows with
  | nil => cases h
  | cons r rest ih =>
    by_cases hr : key r.1 = key e
    · obtain rfl : r = (e, n) := by simpa [hr] using h
      simp
    · simpa [hr] using ih (by simpa [hr] using h)

/-- Of two entries of a key the second one counts. -/
theorem putEntry_putEntry (h : key a = key b) :
    putEntry key time (putEntry key time rows a) b = putEntry key time rows b := by
  unfold putEntry
  induction rows with
  | nil => simp [h]
  | cons r rest ih =>
    by_cases hr : key r.1 = key b
    · simp [hr, h]
    · simpa [hr, h] using ih

/-- Entries of different keys may be put the other way round, if one of the keys is there. -/
theorem putEntry_comm (h : key a ≠ key b) (hthere : (entryOf? key rows (key a)).isSome) :
    putEntry key time (putEntry key time rows a) b =
      putEntry key time (putEntry key time rows b) a := by
  unfold entryOf? at hthere
  unfold putEntry
  induction rows with
  | nil => cases hthere
  | cons r rest ih =>
    by_cases hr : key r.1 = key a
    · simp [hr, h]
    · by_cases hb : key r.1 = key b
      · simp [hb, h.symm]
      · simpa [hr, hb] using ih (by simpa [hr] using hthere)

/-- The keys stay in their places, and a new one comes last. -/
theorem keys_putEntry (rows : List (ε × Nat)) (e : ε) :
    (putEntry key time rows e).map (key ·.1) =
      if key e ∈ rows.map (key ·.1) then rows.map (key ·.1) else rows.map (key ·.1) ++ [key e] := by
  unfold putEntry
  induction rows with
  | nil => simp
  | cons r rest ih =>
    by_cases hr : key r.1 = key e
    · simp [hr]
    · simp only [upsert_cons, beq_iff_eq, hr, if_false, List.map_cons, ih, List.mem_cons,
        Ne.symm hr, false_or]
      split <;> rfl

/-! Many entries. -/

@[simp] theorem putAll_nil (rows : List (ε × Nat)) : putAll key time rows [] = rows := rfl

@[simp] theorem putAll_cons (rows : List (ε × Nat)) (e : ε) (es : List ε) :
    putAll key time rows (e :: es) = putAll key time (putEntry key time rows e) es := rfl

/-- An entry of a key that is there does not count if another one follows. -/
theorem putAll_putEntry (hlater : ∃ x ∈ es, key x = key a)
    (hthere : (entryOf? key rows (key a)).isSome) :
    putAll key time (putEntry key time rows a) es = putAll key time rows es := by
  induction es generalizing rows with
  | nil => simp at hlater
  | cons b es ih =>
    rw [putAll_cons, putAll_cons]
    by_cases hb : key a = key b
    · rw [putEntry_putEntry hb]
    · rw [putEntry_comm hb hthere]
      refine ih ?_ (isSome_entryOf?_putEntry hthere b)
      simpa [Ne.symm hb] using hlater

/-- Where every key has its last entry already, nothing changes. -/
theorem putAll_of_entryOf? (h : ∀ k e, es.reverse.find? (key · == k) = some e →
    ∃ n, entryOf? key rows k = some (e, n)) : putAll key time rows es = rows := by
  induction es with
  | nil => rfl
  | cons a es ih =>
    rw [List.reverse_cons] at h
    have hlast : ∃ e n, entryOf? key rows (key a) = some (e, n) := by
      cases hfound : (es.reverse ++ [a]).find? (key · == key a) with
      | none => simp at hfound
      | some e => exact ⟨e, h _ e hfound⟩
    rw [putAll_cons]
    by_cases hlater : ∃ x ∈ es, key x = key a
    · obtain ⟨e, n, hfound⟩ := hlast
      rw [putAll_putEntry hlater (by simp [hfound])]
      apply ih
      intro k e he
      exact h k e (by simp [he])
    · have hnone : es.reverse.find? (key · == key a) = none := by
        rw [List.find?_eq_none]
        intro x hx hkey
        exact hlater ⟨x, List.mem_reverse.mp hx, by simpa using hkey⟩
      obtain ⟨n, hfound⟩ := h (key a) a (by simp [hnone])
      rw [putEntry_of_entryOf? hfound]
      apply ih
      intro k e he
      exact h k e (by simp [he])

/-- Behind all entries that are put, a key has its last one, at the time of before if there was
one. Keys of no entry have what they had. -/
theorem entryOf?_putAll (time : κ → Nat) (rows : List (ε × Nat)) (es : List ε) (k : κ) :
    (es.reverse.find? (key · == k) = none ∧
      entryOf? key (putAll key time rows es) k = entryOf? key rows k) ∨
    ∃ e n, es.reverse.find? (key · == k) = some e ∧
      entryOf? key (putAll key time rows es) k = some (e, n) ∧
      ∀ old, entryOf? key rows k = some old → n = old.2 := by
  induction es using List.reverseRecOn with
  | nil => exact .inl ⟨rfl, rfl⟩
  | append_singleton es e ih =>
    have hconcat : putAll key time rows (es ++ [e]) =
        putEntry key time (putAll key time rows es) e := by simp [putAll]
    rw [hconcat, entryOf?_putEntry, List.reverse_append]
    by_cases hk : key e = k
    · refine .inr ⟨e, _, by simp [hk], by rw [if_pos hk], ?_⟩
      intro old hold
      rcases ih with ⟨-, hsame⟩ | ⟨e', n, -, hlast, htime⟩
      · simp [hsame, hold]
      · simp [hlast, htime old hold]
    · simpa [hk] using ih

/-- The same of rows that are made of entries with their times. -/
theorem row_putAll (key : ε → κ) (row : ε × Nat → α) {createdAt : α → Nat}
    (hrow : ∀ r, createdAt (row r) = r.2) (time : κ → Nat) (rows : List (ε × Nat)) (es : List ε)
    (k : κ) :
    (es.reverse.find? (key · == k) = none ∧
      (entryOf? key (putAll key time rows es) k).map row = (entryOf? key rows k).map row) ∨
    ∃ e n, es.reverse.find? (key · == k) = some e ∧
      (entryOf? key (putAll key time rows es) k).map row = some (row (e, n)) ∧
      ∀ old, (entryOf? key rows k).map row = some old → n = createdAt old := by
  rcases entryOf?_putAll time rows es k with ⟨hlast, hsame⟩ | ⟨e, n, hlast, hfound, hkept⟩
  · exact .inl ⟨hlast, by rw [hsame]⟩
  · refine .inr ⟨e, n, hlast, by rw [hfound, Option.map_some], ?_⟩
    intro old hold
    obtain ⟨r, hr, rfl⟩ := Option.map_eq_some_iff.mp hold
    rw [hrow]
    exact hkept r hr

/-- Where entries were put already, at whatever times, to put them once more changes nothing. -/
theorem putAll_putAll (time time' : κ → Nat) (rows : List (ε × Nat)) (es : List ε) :
    putAll key time' (putAll key time rows es) es = putAll key time rows es := by
  apply putAll_of_entryOf?
  intro k e he
  rcases entryOf?_putAll time rows es k with ⟨hnone, -⟩ | ⟨e', n, hlast, hfound, -⟩
  · rw [hnone] at he
    cases he
  · rw [hlast] at he
    cases he
    exact ⟨n, hfound⟩

theorem nodup_keys_putAll (time : κ → Nat) (h : (rows.map (key ·.1)).Nodup) (es : List ε) :
    ((putAll key time rows es).map (key ·.1)).Nodup := by
  induction es generalizing rows with
  | nil => exact h
  | cons e es ih =>
    apply ih
    rw [keys_putEntry]
    split
    · exact h
    · rename_i hnew
      rw [← List.concat_eq_append]
      exact h.concat hnew

end

/-- Entries after more of them: each takes the place of the one of its key, or comes last. -/
def replaceAll (key : ε → κ) (kept es : List ε) : List ε :=
  es.foldl (fun kept e => upsert (key · == key e) (fun _ => e) e kept) kept

/-- What entries are put among others comes to does not hang on the times. -/
theorem map_fst_putAll (time : κ → Nat) (rows : List (ε × Nat)) (es : List ε) :
    (putAll key time rows es).map (·.1) = replaceAll key (rows.map (·.1)) es := by
  induction es generalizing rows with
  | nil => rfl
  | cons e es ih =>
    have hput : (putEntry key time rows e).map (·.1) =
        upsert (key · == key e) (fun _ => e) e (rows.map (·.1)) := by
      unfold putEntry
      apply map_upsert
      · exact fun _ => rfl
      · exact fun _ => rfl
    rw [putAll_cons, ih, hput]
    rfl

end PeopleFeed.Directory
