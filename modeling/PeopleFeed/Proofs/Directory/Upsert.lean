import PeopleFeed.Directory.Loading
import Mathlib.Data.List.Nodup

/-! Tables whose rows are replaced by key: of the entries written to a table it keeps the last of
every key. -/
namespace PeopleFeed.Directory

open PeopleFeed.Seed (AccountEntry MembershipEntry ConnectionEntry)

variable {α ε κ : Type} [DecidableEq κ] {key : ε → κ} {es kept pre post : List ε} {e x old : ε}

/-- An entry is the last one of its key. -/
def IsLast (key : ε → κ) (es : List ε) (x : ε) : Prop :=
  es.reverse.find? (fun e => key e == key x) = some x

theorem isLast_concat : IsLast key (es ++ [e]) x ↔
    if key e = key x then e = x else IsLast key es x := by
  by_cases h : key e = key x <;> simp [IsLast, h]

/-- What is kept of entries: the last one of every key, each once. -/
structure KeepsLast (key : ε → κ) (es kept : List ε) : Prop where
  nodup : (kept.map key).Nodup
  mem_iff : ∀ x, x ∈ kept ↔ IsLast key es x

theorem keepsLast_nil (key : ε → κ) : KeepsLast key [] [] where
  nodup := List.nodup_nil
  mem_iff := by simp [IsLast]

/-- An entry of a new key is kept beside the others. -/
theorem KeepsLast.add (h : KeepsLast key es kept) (hnew : ∀ x ∈ kept, key x ≠ key e) :
    KeepsLast key (es ++ [e]) (kept ++ [e]) where
  nodup := by
    rw [List.map_append, List.map_singleton, List.nodup_append]
    refine ⟨h.nodup, List.nodup_singleton _, ?_⟩
    intro a ha b hb
    obtain ⟨x, hx, rfl⟩ := List.mem_map.mp ha
    rw [List.mem_singleton.mp hb]
    exact hnew x hx
  mem_iff := by
    intro x
    rw [isLast_concat, List.mem_append, List.mem_singleton, h.mem_iff]
    by_cases hkey : key e = key x
    · rw [if_pos hkey]
      constructor
      · rintro (hx | rfl)
        · exact absurd hkey.symm (hnew x ((h.mem_iff x).mpr hx))
        · rfl
      · rintro rfl
        exact .inr rfl
    · rw [if_neg hkey]
      constructor
      · rintro (hx | rfl)
        · exact hx
        · exact absurd rfl hkey
      · exact .inl

/-- An entry takes the place of the one of its key. -/
theorem KeepsLast.replace (h : KeepsLast key es (pre ++ old :: post)) (hkey : key old = key e) :
    KeepsLast key (es ++ [e]) (pre ++ e :: post) where
  nodup := by
    have hnodup := h.nodup
    simp only [List.map_append, List.map_cons] at hnodup ⊢
    rwa [← hkey]
  mem_iff := by
    intro x
    have hmem := h.mem_iff x
    have hnodup := h.nodup
    rw [List.map_append, List.map_cons] at hnodup
    have hothers : key x = key old → x ∉ pre ∧ x ∉ post := by
      intro hx
      have hout := List.nodup_middle.mp hnodup |>.notMem
      rw [← List.map_append, ← hx] at hout
      exact ⟨fun hin => hout (List.mem_map_of_mem (List.mem_append_left _ hin)),
        fun hin => hout (List.mem_map_of_mem (List.mem_append_right _ hin))⟩
    rw [isLast_concat]
    simp only [List.mem_append, List.mem_cons] at hmem ⊢
    by_cases hx : key e = key x
    · obtain ⟨hpre, hpost⟩ := hothers (hx.symm.trans hkey.symm)
      simp [hx, hpre, hpost, eq_comm]
    · have hne : x ≠ e := by
        rintro rfl
        exact hx rfl
      have hold : x ≠ old := by
        rintro rfl
        exact hx hkey.symm
      simpa [hx, hne, hold] using hmem

/-- Looking for a key comes to its last entry. -/
theorem KeepsLast.find?_eq (h : KeepsLast key es kept) (k : κ) :
    kept.find? (fun e => key e == k) = es.reverse.find? (fun e => key e == k) := by
  cases hlast : es.reverse.find? (fun e => key e == k) with
  | none =>
    rw [List.find?_eq_none]
    intro x hx hk
    have hxlast := (h.mem_iff x).mp hx
    rw [IsLast, eq_of_beq hk, hlast] at hxlast
    cases hxlast
  | some x =>
    have hk : key x = k := by simpa using List.find?_some hlast
    have hx : x ∈ kept := (h.mem_iff x).mpr (by rw [IsLast, hk, hlast])
    cases hfound : kept.find? (fun e => key e == k) with
    | none => exact absurd (by simpa using hk) (List.find?_eq_none.mp hfound x hx)
    | some y =>
      have hy : key y = k := by simpa using List.find?_some hfound
      have hylast := (h.mem_iff y).mp (List.mem_of_find?_eq_some hfound)
      rw [IsLast, hy, hlast] at hylast
      exact hylast.symm

/-- A replaced row is the first that matches; where none does nothing is replaced. -/
theorem replaceRow?_cases (isSame : α → Bool) (change : α → α) (rows : List α) :
    (replaceRow? isSame change rows = none ∧ ∀ r ∈ rows, isSame r = false) ∨
    ∃ pre r post, rows = pre ++ r :: post ∧ isSame r = true ∧
      replaceRow? isSame change rows = some (pre ++ change r :: post) := by
  induction rows with
  | nil => exact .inl ⟨rfl, by simp⟩
  | cons r rest ih =>
    by_cases hr : isSame r = true
    · exact .inr ⟨[], r, rest, rfl, hr, by simp [replaceRow?, hr]⟩
    · rcases ih with ⟨hnone, hrest⟩ | ⟨pre, r', post, rfl, hr', hsome⟩
      · exact .inl ⟨by simp [replaceRow?, hr, hnone], by simpa [hr] using hrest⟩
      · exact .inr ⟨r :: pre, r', post, rfl, hr', by simp [replaceRow?, hr, hsome]⟩

/-- Rows after an entry is written to them: that of its key is replaced, or else one is added. -/
def upsert (isSame : α → Bool) (change : α → α) (new : α) (rows : List α) : List α :=
  (replaceRow? isSame change rows).getD (rows ++ [new])

/-- Rows that keep the last entries still do when one more is written. -/
theorem KeepsLast.upsert {rows : List α} {entry : α → ε} {isSame : α → Bool} {change : α → α}
    {new : α} (h : KeepsLast key es (rows.map entry))
    (hsame : ∀ r, isSame r = (key (entry r) == key e)) (hchange : ∀ r, entry (change r) = e)
    (hnew : entry new = e) :
    KeepsLast key (es ++ [e]) ((upsert isSame change new rows).map entry) := by
  unfold Directory.upsert
  rcases replaceRow?_cases isSame change rows with ⟨hnone, hother⟩ | ⟨pre, r, post, rfl, hr, hsome⟩
  · rw [hnone, Option.getD_none, List.map_append, List.map_singleton, hnew]
    apply h.add
    intro x hx
    obtain ⟨r, hr, rfl⟩ := List.mem_map.mp hx
    simpa [hsame] using hother r hr
  · rw [hsome, Option.getD_some]
    rw [List.map_append, List.map_cons] at h ⊢
    rw [hchange]
    exact h.replace (by simpa [hsame] using hr)

/-- Who is at the two ends of a connection. -/
def endsOf (c : ConnectionEntry) : String × String := (c.owner, c.target)

theorem joinsSame_eq (a b : ConnectionEntry) : joinsSame a b = decide (endsOf a = endsOf b) := by
  rw [Bool.eq_iff_iff]
  simp [joinsSame, endsOf]

namespace Database

variable {db : Database}

theorem putAccount_of_rows {rows : List AccountRow} (h : db.accounts = .rows rows) (time : Nat)
    (e : AccountEntry) : db.putAccount time e = some { db with
      accounts := .rows (upsert (·.entry.id == e.id) ({ · with entry := e }) ⟨e, time⟩ rows) } := by
  simp only [putAccount, h, Table.rows?, Option.map_some, upsert]
  cases replaceRow? (·.entry.id == e.id) ({ · with entry := e }) rows <;> rfl

theorem putConnection_of_rows {rows : List ConnectionRow} (h : db.connections = .rows rows)
    (time : Nat) (e : ConnectionEntry) : db.putConnection time e = some { db with
      connections := .rows
        (upsert (joinsSame ·.entry e) ({ · with entry := e }) ⟨e, time⟩ rows) } := by
  simp only [putConnection, h, Table.rows?, Option.map_some, upsert]
  cases replaceRow? (joinsSame ·.entry e) ({ · with entry := e }) rows <;> rfl

end Database

/-- Two seeds after each other, section by section. -/
def joinSeeds (s u : Seed) : Seed :=
  ⟨s.accounts ++ u.accounts, s.memberships ++ u.memberships, s.connections ++ u.connections⟩

/-- A directory database that holds what was written to it: of the entries of a seed the last one
of every key. -/
structure Records (db : Database) (s : Seed) : Prop where
  accounts : ∃ rows, db.accounts = .rows rows ∧
    KeepsLast AccountEntry.id s.accounts (rows.map (·.entry))
  memberships : ∃ rows, db.memberships = .rows rows ∧ KeepsLast id s.memberships rows
  connections : ∃ rows, db.connections = .rows rows ∧
    KeepsLast endsOf s.connections (rows.map (·.entry))

variable {db after : Database} {s u : Seed} {t : Times}

theorem records_fresh : Records .fresh ⟨[], [], []⟩ where
  accounts := ⟨[], rfl, keepsLast_nil _⟩
  memberships := ⟨[], rfl, keepsLast_nil _⟩
  connections := ⟨[], rfl, keepsLast_nil _⟩

theorem records_putAccount (h : Records db s) (time : Nat) (e : AccountEntry) :
    ∃ after, db.putAccount time e = some after ∧
      Records after { s with accounts := s.accounts ++ [e] } := by
  obtain ⟨rows, hrows, hkeeps⟩ := h.accounts
  refine ⟨_, Database.putAccount_of_rows hrows time e, ⟨_, rfl, ?_⟩, h.memberships, h.connections⟩
  exact hkeeps.upsert (fun r => rfl) (fun r => rfl) rfl

theorem records_putConnection (h : Records db s) (time : Nat) (e : ConnectionEntry) :
    ∃ after, db.putConnection time e = some after ∧
      Records after { s with connections := s.connections ++ [e] } := by
  obtain ⟨rows, hrows, hkeeps⟩ := h.connections
  refine ⟨_, Database.putConnection_of_rows hrows time e, h.accounts, h.memberships, _, rfl, ?_⟩
  exact hkeeps.upsert (fun r => joinsSame_eq r.entry e) (fun r => rfl) rfl

theorem records_putMembership (h : Records db s) (e : MembershipEntry) :
    ∃ after, db.putMembership e = some after ∧
      Records after { s with memberships := s.memberships ++ [e] } := by
  obtain ⟨rows, hrows, hkeeps⟩ := h.memberships
  simp only [Database.putMembership, hrows, Table.rows?, Option.map_some]
  by_cases hmem : e ∈ rows
  · obtain ⟨pre, post, rfl⟩ := List.append_of_mem hmem
    rw [if_pos (List.contains_iff_mem.mpr hmem)]
    exact ⟨_, rfl, h.accounts, ⟨_, hrows, hkeeps.replace rfl⟩, h.connections⟩
  · rw [if_neg (by simpa using hmem)]
    refine ⟨_, rfl, h.accounts, ⟨_, rfl, hkeeps.add ?_⟩, h.connections⟩
    rintro x hx rfl
    exact hmem hx

/-- Writing one entry after the other, where every one is recorded. -/
theorem records_foldlM {β : Type} {put : Database → β → Option Database}
    (add : Seed → List β → Seed) (hnil : ∀ s, add s [] = s)
    (hcons : ∀ s e rest, add (add s [e]) rest = add s (e :: rest))
    (hput : ∀ db s e, Records db s → ∃ after, put db e = some after ∧ Records after (add s [e]))
    (h : Records db s) (entries : List β) :
    ∃ after, (entries.map fun e db => put db e).foldlM (fun db change => change db) db =
        some after ∧ Records after (add s entries) := by
  induction entries generalizing db s with
  | nil => exact ⟨db, rfl, (hnil s).symm ▸ h⟩
  | cons e rest ih =>
    obtain ⟨next, hnext, hrecords⟩ := hput db s e h
    obtain ⟨after, hafter, hlast⟩ := ih hrecords
    exact ⟨after, by simpa [hnext] using hafter, hcons s e rest ▸ hlast⟩

/-- All entries of a seed can be written, and are recorded behind those before. -/
theorem records_write (h : Records db s) (t : Times) (u : Seed) :
    ∃ after, db.write t u = some after ∧ Records after (joinSeeds s u) := by
  obtain ⟨db₁, h₁, hr₁⟩ := records_foldlM (fun s es => { s with accounts := s.accounts ++ es })
    (by simp) (by simp) (fun _ _ e h => records_putAccount h (t.account e.id) e) h u.accounts
  obtain ⟨db₂, h₂, hr₂⟩ := records_foldlM
    (fun s es => { s with memberships := s.memberships ++ es })
    (by simp) (by simp) (fun _ _ e h => records_putMembership h e) hr₁ u.memberships
  obtain ⟨db₃, h₃, hr₃⟩ := records_foldlM
    (fun s es => { s with connections := s.connections ++ es })
    (by simp) (by simp)
    (fun _ _ e h => records_putConnection h (t.connection e.owner e.target) e) hr₂ u.connections
  refine ⟨db₃, ?_, hr₃⟩
  simp [Database.write, Database.changesOf, h₁, h₂, h₃]

theorem map_change_stepsOf (t : Times) (u : Seed) :
    (stepsOf t u).map Step.change = Database.changesOf t u := by
  simp only [stepsOf, Database.changesOf, List.map_append, List.map_map]
  rfl

/-- What is written, whether or not a database is sealed, is what the changes make of it. -/
theorem foldlM_of_writeSteps {st : Text.Standins} {isSealed : Bool} {steps : List Step}
    (h : writeSteps st isSealed db steps = .ok after) :
    (steps.map Step.change).foldlM (fun db change => change db) db = some after := by
  induction steps generalizing db with
  | nil =>
    cases h
    rfl
  | cons step rest ih =>
    obtain ⟨changed, hwrites, hrest⟩ := writeSteps_cons_eq_ok_iff.mp h
    simpa [hwrites.changes] using ih hrest

theorem write_of_writeSeed {st : Text.Standins} {isSealed : Bool}
    (h : writeSeed st t db isSealed u = .ok after) : db.write t u = some after := by
  rw [Database.write, ← map_change_stepsOf]
  exact foldlM_of_writeSteps h

/-- The texts of the entries can all be encoded. -/
structure IsEncodable (st : Text.Standins) (s : Seed) : Prop where
  accounts : ∀ e ∈ s.accounts, st.tearIn? (e.id :: textsOf e.columns) = none
  memberships : ∀ e ∈ s.memberships, st.tearIn? [e.group, e.member] = none
  connections : ∀ e ∈ s.connections, st.tearIn? [e.owner, e.target] = none

theorem isEncodable_iff {st : Text.Standins} :
    IsEncodable st u ↔ ∀ step ∈ stepsOf t u, step.tear? st = none := by
  simp only [stepsOf, List.forall_mem_append, List.forall_mem_map, Step.tear?]
  constructor
  · intro h
    exact ⟨⟨h.accounts, h.memberships⟩, h.connections⟩
  · rintro ⟨⟨haccounts, hmemberships⟩, hconnections⟩
    exact ⟨haccounts, hmemberships, hconnections⟩

/-- Where all entries can be encoded only the tables can refuse them. -/
theorem writeSteps_of_encodable {st : Text.Standins} {steps : List Step}
    (h : ∀ step ∈ steps, step.tear? st = none) :
    writeSteps st false db steps =
      Option.elim ((steps.map Step.change).foldlM (fun db (c : Database.Change) => c db) db)
        (.error (.refused .atOnce)) .ok := by
  induction steps generalizing db with
  | nil => rfl
  | cons step rest ih =>
    obtain ⟨hstep, hrest⟩ := List.forall_mem_cons.mp h
    rw [writeSteps, List.map_cons, List.foldlM_cons]
    cases step.change db with
    | none => rfl
    | some changed =>
      simp only [hstep, Bool.false_and, Bool.false_eq_true, if_false, Option.bind_eq_bind,
        Option.bind_some]
      exact ih hrest

theorem writeSeed_of_isEncodable {st : Text.Standins} (h : IsEncodable st u) :
    writeSeed st t db false u = (db.write t u).elim (.error (.refused .atOnce)) .ok := by
  rw [writeSeed, writeSteps_of_encodable (isEncodable_iff.mp h), map_change_stepsOf,
    Database.write]

/-- A seed that is loaded is recorded. -/
theorem records_load {codec : Json.Codec} {path : String} {file : Json.File} {isSealed : Bool}
    {counts : Counts} (h : Records db s)
    (hload : load codec t path file db isSealed = .ok (counts, after)) :
    ∃ u, readSeed codec path file = .ok u ∧ Records after (joinSeeds s u) := by
  unfold load at hload
  cases hread : readSeed codec path file with
  | error fault =>
    rw [hread] at hload
    cases hload
  | ok u =>
    rw [hread] at hload
    dsimp only at hload
    cases hwrite : writeSeed codec.standins t db isSealed u with
    | error failure =>
      rw [hwrite] at hload
      cases hload
    | ok db' =>
      rw [hwrite] at hload
      cases hload
      obtain ⟨written, hwritten, hrecords⟩ := records_write h t u
      rw [write_of_writeSeed hwrite] at hwritten
      cases hwritten
      exact ⟨u, rfl, hrecords⟩

end PeopleFeed.Directory
