import PeopleFeed.Proofs.Directory.Answers
import PeopleFeed.Proofs.Directory.Dated

/-! What the tables of a directory hold behind the entries of a seed: the last entry of every key,
at the time that its row had before, and all other rows as they were. -/
namespace PeopleFeed.Directory

open PeopleFeed.Seed (AccountEntry MembershipEntry ConnectionEntry)

variable {α ε : Type} {t : Times} {s : Seed}

section

variable {es kept : List ε} [DecidableEq ε] {x : ε}

/-- The rows with more of them behind, each once. -/
def addAll (kept es : List ε) : List ε :=
  es.foldl (fun kept e => if e ∈ kept then kept else kept ++ [e]) kept

theorem mem_addAll (kept es : List ε) : x ∈ addAll kept es ↔ x ∈ kept ∨ x ∈ es := by
  induction es generalizing kept with
  | nil => simp [addAll]
  | cons e es ih =>
    have hcons : addAll kept (e :: es) = addAll (if e ∈ kept then kept else kept ++ [e]) es := rfl
    have hadd : x ∈ (if e ∈ kept then kept else kept ++ [e]) ↔ x ∈ kept ∨ x = e := by
      by_cases he : e ∈ kept
      · rw [if_pos he]
        constructor
        · exact .inl
        · rintro (hx | rfl)
          · exact hx
          · exact he
      · simp [he]
    rw [hcons, ih, hadd, List.mem_cons, or_assoc]

theorem addAll_of_subset (h : ∀ e ∈ es, e ∈ kept) : addAll kept es = kept := by
  induction es with
  | nil => rfl
  | cons e es ih =>
    have he : e ∈ kept := h e List.mem_cons_self
    have hcons : addAll kept (e :: es) = addAll (if e ∈ kept then kept else kept ++ [e]) es := rfl
    rw [hcons, if_pos he]
    exact ih fun x hx => h x (List.mem_cons_of_mem e hx)

theorem nodup_addAll (h : kept.Nodup) (es : List ε) : (addAll kept es).Nodup := by
  induction es generalizing kept with
  | nil => exact h
  | cons e es ih =>
    have hadd : (if e ∈ kept then kept else kept ++ [e]).Nodup := by
      split
      · exact h
      · rename_i hnew
        rw [← List.concat_eq_append]
        exact h.concat hnew
    exact ih hadd

end

theorem Table.exists_rows {β : Type} {table : Table α} {f : List α → β} {b : β}
    (h : table.rows?.map f = some b) : ∃ rows, table = .rows rows := by
  cases table with
  | rows rows => exact ⟨rows, rfl⟩
  | absent | foreign => cases h

namespace Database

variable {db after : Database}

/-- The accounts with the times of their rows. -/
def datedAccounts (db : Database) : List (AccountEntry × Nat) :=
  (db.accounts.rows?.getD []).map fun r => (r.entry, r.createdAt)

/-- The database with other accounts. -/
def withAccounts (db : Database) (rows : List (AccountEntry × Nat)) : Database :=
  { db with accounts := .rows (rows.map fun r => ⟨r.1, r.2⟩) }

/-- The connections with the times of their rows. -/
def datedConnections (db : Database) : List (ConnectionEntry × Nat) :=
  (db.connections.rows?.getD []).map fun r => (r.entry, r.createdAt)

/-- The database with other connections. -/
def withConnections (db : Database) (rows : List (ConnectionEntry × Nat)) : Database :=
  { db with connections := .rows (rows.map fun r => ⟨r.1, r.2⟩) }

@[simp] theorem datedAccounts_withAccounts (db : Database) (rows : List (AccountEntry × Nat)) :
    (db.withAccounts rows).datedAccounts = rows := by
  simp [datedAccounts, withAccounts, Table.rows?, Function.comp_def]

@[simp] theorem datedConnections_withConnections (db : Database)
    (rows : List (ConnectionEntry × Nat)) :
    (db.withConnections rows).datedConnections = rows := by
  simp [datedConnections, withConnections, Table.rows?, Function.comp_def]

theorem withAccounts_datedAccounts {rows : List AccountRow} (h : db.accounts = .rows rows) :
    db.withAccounts db.datedAccounts = db := by
  obtain ⟨accounts, memberships, connections⟩ := db
  cases h
  simp [datedAccounts, withAccounts, Table.rows?, Function.comp_def]

theorem withConnections_datedConnections {rows : List ConnectionRow}
    (h : db.connections = .rows rows) : db.withConnections db.datedConnections = db := by
  obtain ⟨accounts, memberships, connections⟩ := db
  cases h
  simp [datedConnections, withConnections, Table.rows?, Function.comp_def]

/-- Writes an account at the time of its id. -/
def addAccount (t : Times) (db : Database) (e : AccountEntry) : Option Database :=
  db.putAccount (t.account e.id) e

/-- Writes a connection at the time of its ends. -/
def addConnection (t : Times) (db : Database) (e : ConnectionEntry) : Option Database :=
  db.putConnection (t.connection e.owner e.target) e

/-- The time of a connection by its ends. -/
def timeOfEnds (t : Times) (ends : String × String) : Nat :=
  t.connection ends.1 ends.2

theorem addAccount_eq {rows : List AccountRow} (h : db.accounts = .rows rows) (t : Times)
    (e : AccountEntry) : db.addAccount t e =
      some (db.withAccounts (putEntry AccountEntry.id t.account db.datedAccounts e)) := by
  have hrows : putEntry AccountEntry.id t.account db.datedAccounts e =
      (upsert (·.entry.id == e.id) ({ · with entry := e }) ⟨e, t.account e.id⟩ rows).map
        fun r => (r.entry, r.createdAt) := by
    rw [datedAccounts, h]
    symm
    apply map_upsert
    · exact fun _ => rfl
    · exact fun _ => rfl
  rw [addAccount, putAccount_of_rows h, hrows]
  simp [withAccounts, Function.comp_def]

theorem addConnection_eq {rows : List ConnectionRow} (h : db.connections = .rows rows) (t : Times)
    (e : ConnectionEntry) : db.addConnection t e =
      some (db.withConnections (putEntry endsOf (timeOfEnds t) db.datedConnections e)) := by
  have hrows : putEntry endsOf (timeOfEnds t) db.datedConnections e =
      (upsert (joinsSame ·.entry e) ({ · with entry := e }) ⟨e, t.connection e.owner e.target⟩
        rows).map fun r => (r.entry, r.createdAt) := by
    rw [datedConnections, h]
    symm
    apply map_upsert
    · exact fun r => (joinsSame_eq r.entry e).symm
    · exact fun _ => rfl
  rw [addConnection, putConnection_of_rows h, hrows]
  simp [withConnections, Function.comp_def]

theorem putMembership_eq {rows : List MembershipEntry} (h : db.memberships = .rows rows)
    (m : MembershipEntry) :
    db.putMembership m = some { db with memberships := .rows (addAll rows [m]) } := by
  obtain ⟨accounts, memberships, connections⟩ := db
  cases h
  by_cases hm : m ∈ rows <;> simp [putMembership, addAll, Table.rows?, hm]

/-! Entries of a section are written if there are none, or if their table has rows. -/

section

variable {β : Type} {put : Database → β → Option Database} {all : Database → List β → Database}
  (hasRows : Database → Prop)

include hasRows

theorem foldlM_of_hasRows (hnil : ∀ db, hasRows db → all db [] = db)
    (hput : ∀ db e, hasRows db → put db e = some (all db [e]) ∧ hasRows (all db [e]))
    (hcons : ∀ db e es, all (all db [e]) es = all db (e :: es)) (hdb : hasRows db)
    (es : List β) : es.foldlM put db = some (all db es) := by
  induction es generalizing db with
  | nil => rw [hnil db hdb, List.foldlM_nil, Option.pure_def]
  | cons e es ih =>
    obtain ⟨hfirst, hrows⟩ := hput db e hdb
    rw [List.foldlM_cons, hfirst]
    exact (ih hrows).trans (by rw [hcons])

theorem foldlM_cases (hall : ∀ db es, hasRows db → es.foldlM put db = some (all db es))
    (hneeds : ∀ db e after, put db e = some after → hasRows db) {es : List β}
    (h : es.foldlM put db = some after) :
    (es = [] ∧ after = db) ∨ hasRows db ∧ after = all db es := by
  cases es with
  | nil => exact .inl ⟨rfl, (Option.some.inj h).symm⟩
  | cons e es =>
    have hrows : hasRows db := by
      cases hfirst : put db e with
      | none =>
        rw [List.foldlM_cons, hfirst] at h
        cases h
      | some next => exact hneeds db e next hfirst
    rw [hall db (e :: es) hrows] at h
    exact .inr ⟨hrows, (Option.some.inj h).symm⟩

end

theorem foldlM_addAccount (t : Times) (db : Database) (es : List AccountEntry)
    (h : ∃ rows, db.accounts = .rows rows) : es.foldlM (addAccount t) db =
      some (db.withAccounts (putAll AccountEntry.id t.account db.datedAccounts es)) := by
  apply foldlM_of_hasRows (fun db => ∃ rows, db.accounts = .rows rows) ?_ ?_ ?_ h
  · rintro db ⟨rows, hrows⟩
    exact withAccounts_datedAccounts hrows
  · rintro db e ⟨rows, hrows⟩
    exact ⟨addAccount_eq hrows t e, _, rfl⟩
  · intro db e es
    simp
    rfl

theorem foldlM_addConnection (t : Times) (db : Database) (es : List ConnectionEntry)
    (h : ∃ rows, db.connections = .rows rows) : es.foldlM (addConnection t) db =
      some (db.withConnections (putAll endsOf (timeOfEnds t) db.datedConnections es)) := by
  apply foldlM_of_hasRows (fun db => ∃ rows, db.connections = .rows rows) ?_ ?_ ?_ h
  · rintro db ⟨rows, hrows⟩
    exact withConnections_datedConnections hrows
  · rintro db e ⟨rows, hrows⟩
    exact ⟨addConnection_eq hrows t e, _, rfl⟩
  · intro db e es
    simp
    rfl

/-- The rows of the memberships. -/
def membershipRows (db : Database) : List MembershipEntry :=
  db.memberships.rows?.getD []

/-- The database with more memberships. -/
def withMore (db : Database) (ms : List MembershipEntry) : Database :=
  { db with memberships := .rows (addAll db.membershipRows ms) }

theorem foldlM_putMembership (db : Database) (ms : List MembershipEntry)
    (h : ∃ rows, db.memberships = .rows rows) :
    ms.foldlM putMembership db = some (db.withMore ms) := by
  apply foldlM_of_hasRows (fun db => ∃ rows, db.memberships = .rows rows) ?_ ?_ ?_ h
  · rintro ⟨accounts, memberships, connections⟩ ⟨rows, hrows⟩
    cases hrows
    rfl
  · rintro db m ⟨rows, hrows⟩
    refine ⟨?_, _, rfl⟩
    rw [putMembership_eq hrows, withMore, membershipRows, hrows]
    rfl
  · intro db m ms
    rfl

theorem accounts_cases {es : List AccountEntry} (h : es.foldlM (addAccount t) db = some after) :
    (es = [] ∧ after = db) ∨
      after = db.withAccounts (putAll AccountEntry.id t.account db.datedAccounts es) := by
  have hneeds : ∀ db e after,
      addAccount t db e = some after → ∃ rows, db.accounts = .rows rows :=
    fun _ _ _ hput => Table.exists_rows hput
  exact (foldlM_cases _ (foldlM_addAccount t) hneeds h).imp id And.right

theorem memberships_cases {ms : List MembershipEntry}
    (h : ms.foldlM putMembership db = some after) :
    (ms = [] ∧ after = db) ∨ after = db.withMore ms := by
  have hneeds : ∀ db e after,
      putMembership db e = some after → ∃ rows, db.memberships = .rows rows :=
    fun _ _ _ hput => Table.exists_rows hput
  exact (foldlM_cases _ foldlM_putMembership hneeds h).imp id And.right

theorem connections_cases {es : List ConnectionEntry}
    (h : es.foldlM (addConnection t) db = some after) :
    (es = [] ∧ after = db) ∨
      after = db.withConnections (putAll endsOf (timeOfEnds t) db.datedConnections es) := by
  have hneeds : ∀ db e after,
      addConnection t db e = some after → ∃ rows, db.connections = .rows rows :=
    fun _ _ _ hput => Table.exists_rows hput
  exact (foldlM_cases _ (foldlM_addConnection t) hneeds h).imp id And.right

/-- The row of a connection, if there is one. -/
def connection? (db : Database) (owner target : String) : Option ConnectionRow :=
  db.connections.rows?.bind fun rows => rows.find? fun r =>
    decide (endsOf r.entry = (owner, target))

theorem account?_eq (db : Database) (id : String) :
    db.account? id = (entryOf? AccountEntry.id db.datedAccounts id).map fun r => ⟨r.1, r.2⟩ := by
  unfold account? datedAccounts entryOf?
  cases db.accounts.rows? with
  | none => rfl
  | some rows => simp [List.find?_map, Function.comp_def]

theorem connection?_eq (db : Database) (owner target : String) : db.connection? owner target =
    (entryOf? endsOf db.datedConnections (owner, target)).map fun r => ⟨r.1, r.2⟩ := by
  unfold connection? datedConnections entryOf?
  cases db.connections.rows? with
  | none => rfl
  | some rows =>
    simp [List.find?_map, Function.comp_def]
    rfl

/-- To write a seed is to write its sections one after the other. -/
theorem write_eq_bind (t : Times) (db : Database) (s : Seed) :
    db.write t s = (s.accounts.foldlM (addAccount t) db).bind fun d =>
      (s.memberships.foldlM putMembership d).bind fun d =>
        s.connections.foldlM (addConnection t) d := by
  simp only [write, changesOf, List.foldlM_append, List.foldlM_map, Option.bind_eq_bind,
    Option.bind_assoc]
  rfl

end Database

variable {db after : Database}

/-- What a database holds behind the entries of a seed: the last entry of every key at the time of
the row before, and the other rows of before. -/
structure Merged (s : Seed) (db after : Database) : Prop where
  account : ∀ id, (lastAccount s id = none ∧ after.account? id = db.account? id) ∨
    ∃ e n, lastAccount s id = some e ∧ after.account? id = some ⟨e, n⟩ ∧
      ∀ old, db.account? id = some old → n = old.createdAt
  membership : ∀ m, m ∈ after.membershipRows ↔ m ∈ db.membershipRows ∨ m ∈ s.memberships
  connection : ∀ owner target,
    (lastConnection s owner target = none ∧
      after.connection? owner target = db.connection? owner target) ∨
    ∃ c n, lastConnection s owner target = some c ∧
      after.connection? owner target = some ⟨c, n⟩ ∧
      ∀ old, db.connection? owner target = some old → n = old.createdAt

theorem account_of_foldlM {es : List AccountEntry}
    (h : es.foldlM (Database.addAccount t) db = some after) (id : String) :
    (es.reverse.find? (·.id == id) = none ∧ after.account? id = db.account? id) ∨
    ∃ e n, es.reverse.find? (·.id == id) = some e ∧ after.account? id = some ⟨e, n⟩ ∧
      ∀ old, db.account? id = some old → n = old.createdAt := by
  rcases Database.accounts_cases h with ⟨rfl, rfl⟩ | rfl
  · exact .inl ⟨rfl, rfl⟩
  · simp only [Database.account?_eq, Database.datedAccounts_withAccounts]
    exact row_putAll AccountEntry.id (fun r => (⟨r.1, r.2⟩ : AccountRow)) (fun _ => rfl)
      t.account db.datedAccounts es id

theorem connection_of_foldlM {es : List ConnectionEntry}
    (h : es.foldlM (Database.addConnection t) db = some after) (owner target : String) :
    (es.reverse.find? (fun c => decide (endsOf c = (owner, target))) = none ∧
      after.connection? owner target = db.connection? owner target) ∨
    ∃ c n, es.reverse.find? (fun c => decide (endsOf c = (owner, target))) = some c ∧
      after.connection? owner target = some ⟨c, n⟩ ∧
      ∀ old, db.connection? owner target = some old → n = old.createdAt := by
  rcases Database.connections_cases h with ⟨rfl, rfl⟩ | rfl
  · exact .inl ⟨rfl, rfl⟩
  · simp only [Database.connection?_eq, Database.datedConnections_withConnections]
    exact row_putAll endsOf (fun r => (⟨r.1, r.2⟩ : ConnectionRow)) (fun _ => rfl)
      (Database.timeOfEnds t) db.datedConnections es (owner, target)

theorem membership_of_foldlM {ms : List MembershipEntry}
    (h : ms.foldlM Database.putMembership db = some after) (m : MembershipEntry) :
    m ∈ after.membershipRows ↔ m ∈ db.membershipRows ∨ m ∈ ms := by
  rcases Database.memberships_cases h with ⟨rfl, rfl⟩ | rfl
  · simp
  · exact mem_addAll db.membershipRows ms

/-- A seed that is written is merged into what was there. -/
theorem merged_of_write (h : db.write t s = some after) : Merged s db after := by
  rw [Database.write_eq_bind] at h
  obtain ⟨d₁, h₁, h⟩ := Option.bind_eq_some_iff.mp h
  obtain ⟨d₂, h₂, h₃⟩ := Option.bind_eq_some_iff.mp h
  -- Each section leaves the tables of the others.
  have haccounts : after.accounts = d₁.accounts := by
    rcases Database.memberships_cases h₂ with ⟨-, rfl⟩ | rfl <;>
      rcases Database.connections_cases h₃ with ⟨-, rfl⟩ | rfl <;> rfl
  have hmemberships : d₁.memberships = db.memberships ∧ after.memberships = d₂.memberships := by
    rcases Database.accounts_cases h₁ with ⟨-, rfl⟩ | rfl <;>
      rcases Database.connections_cases h₃ with ⟨-, rfl⟩ | rfl <;> exact ⟨rfl, rfl⟩
  have hconnections : d₂.connections = db.connections := by
    rcases Database.accounts_cases h₁ with ⟨-, rfl⟩ | rfl <;>
      rcases Database.memberships_cases h₂ with ⟨-, rfl⟩ | rfl <;> rfl
  refine ⟨?_, ?_, ?_⟩
  · intro id
    have hsame : after.account? id = d₁.account? id := by simp only [Database.account?, haccounts]
    rw [hsame]
    exact account_of_foldlM h₁ id
  · intro m
    have hfirst : d₁.membershipRows = db.membershipRows := by
      simp only [Database.membershipRows, hmemberships.1]
    have hlast : after.membershipRows = d₂.membershipRows := by
      simp only [Database.membershipRows, hmemberships.2]
    rw [hlast, ← hfirst]
    exact membership_of_foldlM h₂ m
  · intro owner target
    have hsame : d₂.connection? owner target = db.connection? owner target := by
      simp only [Database.connection?, hconnections]
    rw [← hsame]
    exact connection_of_foldlM h₃ owner target

end PeopleFeed.Directory
