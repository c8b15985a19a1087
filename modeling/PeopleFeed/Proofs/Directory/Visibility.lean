import PeopleFeed.Directory.Services
import PeopleFeed.Proofs.Feed.Beside
import Mathlib.Data.List.Forall2
import Mathlib.Data.Option.Basic

/-! What a viewer is shown of an account: all of it, unless it is private. A private account is
shown to those only whom the list of their own connections takes out of their feed. -/
namespace PeopleFeed.Directory

open PeopleFeed.Feed (Agree Call Entity)

variable {db db' : Database} {viewer id : String} {ids : List String}

namespace Database

/-- The row of an account, if there is one. -/
def account? (db : Database) (id : String) : Option AccountRow :=
  db.accounts.rows?.bind fun rows => rows.find? fun r => r.entry.id == id

/-- The row that a lookup comes to. -/
def rowFor (db : Database) (id : Option String) : Except Fault (Option AccountRow) :=
  (rowsFor .findEntity db.accounts).map fun rows => rows.find? fun r => some r.entry.id == id

/-- What the viewer is shown of a row. -/
def shown (db : Database) (viewer : String) : Option AccountRow → Except Fault (Option Entity)
  | none => .ok none
  | some row =>
    if row.entry.isPrivate then
      (db.mayView viewer row.entry.id).bind fun allowed =>
        if allowed then .ok (some (entityOf row.entry))
        else .error (.denial (.unreadable viewer row.entry.id))
    else .ok (some (entityOf row.entry))

theorem find_eq (db : Database) (viewer : String) (id : Option String) :
    db.find viewer id = (db.rowFor id).bind (db.shown viewer) := by
  unfold find rowFor
  cases rowsFor .findEntity db.accounts with
  | error f => rfl
  | ok rows =>
    simp only [Except.map, Except.bind, bind, pure, Except.pure]
    cases rows.find? fun r => some r.entry.id == id with
    | none => rfl
    | some row => simp only [shown, Except.bind]

theorem id_of_rowFor {id : Option String} {row : AccountRow}
    (h : db.rowFor id = .ok (some row)) : some row.entry.id = id := by
  unfold rowFor at h
  cases hr : rowsFor .findEntity db.accounts with
  | error f => simp [hr, Except.map] at h
  | ok rows =>
    simp only [hr, Except.map, Except.ok.injEq] at h
    simpa using List.find?_some h

theorem account?_of_rowFor {row : AccountRow} (h : db.rowFor (some id) = .ok (some row)) :
    db.account? id = some row := by
  unfold rowFor rowsFor at h
  unfold account?
  cases hr : db.accounts.rows? with
  | none => simp [hr, Except.map] at h
  | some rows => simpa [hr, Except.map] using h

/-- A viewer may read the private accounts that are told as its connections, and its own. -/
theorem mayView_eq (h : db.connected viewer .accepted = .ok ids) (id : String) :
    db.mayView viewer id = .ok (id == viewer || ids.contains id) := by
  unfold connected rowsFor at h
  unfold mayView rowsFor
  cases hr : db.connections.rows? with
  | none => simp [hr, Except.map] at h
  | some rows =>
    simp only [hr, Except.map, Except.ok.injEq] at h
    have hids : ids.contains id = rows.any fun r =>
        r.entry.owner == viewer && r.entry.target == id && r.entry.state == .accepted := by
      rw [Bool.eq_iff_iff, List.contains_iff_mem, List.any_eq_true, ← h]
      simp only [List.mem_map, List.mem_mergeSort, List.mem_filter, Bool.and_eq_true, beq_iff_eq]
      constructor
      · rintro ⟨r, ⟨hr, ho, hs⟩, ht⟩
        exact ⟨r, hr, ⟨ho, ht⟩, hs⟩
      · rintro ⟨r, hr, ⟨ho, ht⟩, hs⟩
        exact ⟨r, ⟨hr, ho, hs⟩, ht⟩
    by_cases hself : id = viewer
    · simp [hself]
    · simp only [if_neg hself, Except.map]
      rw [hids, beq_eq_false_iff_ne.2 hself, Bool.false_or]

/-- Of the accounts that are neither its own nor those of its connections, a viewer is shown the
ones that are not private. -/
theorem shown_of_stranger (h : db.connected viewer .accepted = .ok ids) {row : AccountRow}
    (hself : row.entry.id ≠ viewer) (hid : row.entry.id ∉ ids) :
    db.shown viewer (some row) =
      if row.entry.isPrivate then .error (.denial (.unreadable viewer row.entry.id))
      else .ok (some (entityOf row.entry)) := by
  simp only [shown, mayView_eq h, Except.bind]
  simp [hself, hid]

/-- What somebody is found to be is shown of a row. -/
theorem exists_row_of_find {id : Option String} {e : Entity}
    (he : db.find viewer id = .ok (some e)) :
    ∃ row, db.rowFor id = .ok (some row) ∧ db.shown viewer (some row) = .ok (some e) := by
  rw [find_eq] at he
  cases hrow : db.rowFor id with
  | error f => simp [hrow, Except.bind] at he
  | ok found =>
    rw [hrow, Except.bind] at he
    cases found with
    | none => simp [shown] at he
    | some row => exact ⟨row, rfl, he⟩

/-- Whatever is shown of a row is all of it. -/
theorem eq_entityOf_of_shown {row : AccountRow} {e : Entity}
    (he : db.shown viewer (some row) = .ok (some e)) : e = entityOf row.entry := by
  simp only [shown] at he
  split at he
  · cases hview : db.mayView viewer row.entry.id with
    | error f =>
      rw [hview] at he
      cases he
    | ok allowed =>
      rw [hview] at he
      cases allowed with
      | false => cases he
      | true => exact (Option.some.inj (Except.ok.inj he)).symm
  · exact (Option.some.inj (Except.ok.inj he)).symm

/-- What a stranger is found to be stands in a row that is not private. -/
theorem account?_of_stranger (h : db.connected viewer .accepted = .ok ids) (hself : id ≠ viewer)
    (hid : id ∉ ids) {e : Entity} (he : db.find viewer (some id) = .ok (some e)) :
    ∃ row, db.account? id = some row ∧ row.entry.isPrivate = false ∧ e = entityOf row.entry := by
  obtain ⟨row, hrow, hshown⟩ := exists_row_of_find he
  refine ⟨row, account?_of_rowFor hrow, ?_, eq_entityOf_of_shown hshown⟩
  have hrid : row.entry.id = id := Option.some.inj (id_of_rowFor hrow)
  rw [shown_of_stranger h (hrid ▸ hself) (hrid ▸ hid)] at hshown
  cases hp : row.entry.isPrivate with
  | true => simp [hp] at hshown
  | false => rfl

end Database

/-- Two rows of an account, alike in all but the profile of one that is private. -/
structure AccountRow.SamePublic (r r' : AccountRow) : Prop where
  id : r.entry.id = r'.entry.id
  kind : r.entry.kind = r'.entry.kind
  isPrivate : r.entry.isPrivate = r'.entry.isPrivate
  createdAt : r.createdAt = r'.createdAt
  columns : r.entry.isPrivate = false → r.entry.columns = r'.entry.columns

theorem AccountRow.SamePublic.entry {r r' : AccountRow} (h : r.SamePublic r')
    (hp : r.entry.isPrivate = false) : r.entry = r'.entry := by
  have hcolumns := h.columns hp
  obtain ⟨⟨id, kind, columns, isPrivate⟩, createdAt⟩ := r
  obtain ⟨⟨id', kind', columns', isPrivate'⟩, createdAt'⟩ := r'
  obtain ⟨hid, hkind, hprivate, -, -⟩ := h
  simp_all

/-- Two tables, alike but for a relation between their rows. -/
inductive Table.Rel {α : Type} (P : α → α → Prop) : Table α → Table α → Prop
  | absent : Rel P .absent .absent
  | foreign : Rel P .foreign .foreign
  | rows {rs rs' : List α} (h : List.Forall₂ P rs rs') : Rel P (.rows rs) (.rows rs')

/-- Two databases, alike in all but the profiles of private accounts. -/
structure Database.SamePublic (db db' : Database) : Prop where
  accounts : Table.Rel AccountRow.SamePublic db.accounts db'.accounts
  memberships : db.memberships = db'.memberships
  connections : db.connections = db'.connections

theorem find?_rel {α β : Type} {P : α → β → Prop} {p : α → Bool} {q : β → Bool}
    (hp : ∀ a b, P a b → p a = q b) {xs : List α} {ys : List β} (h : List.Forall₂ P xs ys) :
    Option.Rel P (xs.find? p) (ys.find? q) := by
  induction h with
  | nil => exact .none
  | @cons a b xs ys hab h ih =>
    have hb := hp a b hab
    cases ha : p a with
    | true => simpa [List.find?_cons, ha, ← hb] using Option.Rel.some hab
    | false => simpa [List.find?_cons, ha, ← hb] using ih

namespace Database.SamePublic

theorem rowFor (h : db.SamePublic db') (id : Option String) :
    Agree (Option.Rel AccountRow.SamePublic) (db.rowFor id) (db'.rowFor id) := by
  unfold Database.rowFor rowsFor
  have ha := h.accounts
  generalize db.accounts = t at ha
  generalize db'.accounts = t' at ha
  cases ha with
  | absent => exact .error _
  | foreign => exact .error _
  | rows hrows => exact .ok (find?_rel (fun r r' hr => by rw [hr.id]) hrows)

theorem mayView (h : db.SamePublic db') (viewer id : String) :
    db.mayView viewer id = db'.mayView viewer id := by
  simp only [Database.mayView, h.connections]

theorem identity_entityOf {row row' : AccountRow} (h : row.SamePublic row') :
    (entityOf row.entry).identity = (entityOf row'.entry).identity := by
  simp only [entityOf, Entity.identity, h.kind, h.id]

/-- Of two such rows a viewer is shown the same account. -/
theorem shown (h : db.SamePublic db') (viewer : String) (id : Option String)
    {row row' : AccountRow} (hrow : row.SamePublic row') :
    Agree (Call.Alike (.find id)) (db.shown viewer (some row)) (db'.shown viewer (some row')) := by
  have halike : (Call.find id).Alike (some (entityOf row.entry)) (some (entityOf row'.entry)) :=
    congrArg some (identity_entityOf hrow)
  simp only [Database.shown, ← h.mayView, ← hrow.id, ← hrow.isPrivate]
  cases row.entry.isPrivate with
  | false => exact .ok halike
  | true =>
    cases db.mayView viewer row.entry.id with
    | error f => exact .error f
    | ok allowed =>
      cases allowed with
      | false => exact .error _
      | true => exact .ok halike

/-- A lookup comes to the same account. -/
theorem find_alike (h : db.SamePublic db') (viewer : String) (id : Option String) :
    Agree (Call.Alike (.find id)) (db.find viewer id) (db'.find viewer id) := by
  rw [find_eq, find_eq]
  have hrow := h.rowFor id
  generalize db.rowFor id = x at hrow
  generalize db'.rowFor id = x' at hrow
  cases hrow with
  | error f => exact .error f
  | ok hfound =>
    cases hfound with
    | none => exact .ok rfl
    | some hrow => exact h.shown viewer id hrow

/-- The lookup of a stranger tells the same about it. -/
theorem find_stranger (h : db.SamePublic db') (hids : db.connected viewer .accepted = .ok ids)
    (hself : id ≠ viewer) (hid : id ∉ ids) :
    db.find viewer (some id) = db'.find viewer (some id) := by
  have hids' : db'.connected viewer .accepted = .ok ids := by
    rw [← hids]
    simp only [connected, h.connections]
  rw [find_eq, find_eq]
  have hagree := h.rowFor (some id)
  generalize hx : db.rowFor (some id) = x at hagree ⊢
  generalize hx' : db'.rowFor (some id) = x' at hagree ⊢
  cases hagree with
  | error f => rfl
  | ok hfound =>
    cases hfound with
    | none => rfl
    | @some row row' hrow =>
      have hrid : row.entry.id = id := Option.some.inj (id_of_rowFor hx)
      have hrid' : row'.entry.id = id := Option.some.inj (id_of_rowFor hx')
      simp only [Except.bind]
      rw [shown_of_stranger hids (hrid ▸ hself) (hrid ▸ hid),
        shown_of_stranger hids' (hrid' ▸ hself) (hrid' ▸ hid)]
      cases hp : row.entry.isPrivate with
      | false =>
        have hentry := hrow.entry hp
        simp [← hentry, hp]
      | true =>
        have hp' : row'.entry.isPrivate = true := hrow.isPrivate ▸ hp
        simp [hp', hrid, hrid']

end Database.SamePublic

end PeopleFeed.Directory
