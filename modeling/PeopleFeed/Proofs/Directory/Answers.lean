import PeopleFeed.Proofs.Directory.Upsert
import PeopleFeed.Proofs.Directory.Visibility

/-! What a directory database answers, by the entries that were written to it. -/
namespace PeopleFeed.Directory

open PeopleFeed.Feed (Entity)
open PeopleFeed.Seed (AccountEntry MembershipEntry ConnectionEntry ConnectionState)

variable {db : Database} {s : Seed} {ids : List String}

/-- The last entry of an account. -/
def lastAccount (s : Seed) (id : String) : Option AccountEntry :=
  s.accounts.reverse.find? fun e => e.id == id

/-- The last entry of a connection. -/
def lastConnection (s : Seed) (owner target : String) : Option ConnectionEntry :=
  s.connections.reverse.find? fun c => decide (endsOf c = (owner, target))

/-- Whether the last entry of a connection says that it stands as given. -/
def stands (s : Seed) (owner target : String) (state : ConnectionState) : Bool :=
  (lastConnection s owner target).any fun c => c.state == state

theorem endsOf_of_lastConnection {owner target : String} {c : ConnectionEntry}
    (h : lastConnection s owner target = some c) : c = ⟨owner, target, c.state⟩ := by
  obtain ⟨o, t, state⟩ := c
  have hends := List.find?_some h
  simp only [endsOf, decide_eq_true_eq, Prod.mk.injEq] at hends
  obtain ⟨rfl, rfl⟩ := hends
  rfl

/-- The connections of a table are those that stand. -/
theorem exists_row_iff_stands {rows : List ConnectionRow}
    (h : KeepsLast endsOf s.connections (rows.map (·.entry))) (owner target : String)
    (state : ConnectionState) :
    (∃ r ∈ rows, r.entry = ⟨owner, target, state⟩) ↔ stands s owner target state = true := by
  rw [← List.mem_map, h.mem_iff]
  change lastConnection s owner target = some ⟨owner, target, state⟩ ↔ _
  unfold stands
  cases hlast : lastConnection s owner target with
  | none => simp
  | some c =>
    rw [endsOf_of_lastConnection hlast]
    simp

/-- The connections of an owner are told once each, and are those that stand as asked. -/
theorem connected_of_records (h : Records db s) (owner : String) (state : ConnectionState) :
    ∃ ids, db.connected owner state = .ok ids ∧ ids.Nodup ∧
      ∀ id, id ∈ ids ↔ stands s owner id state = true := by
  obtain ⟨rows, hrows, hkeeps⟩ := h.connections
  refine ⟨_, by simp only [Database.connected, rowsFor, hrows, Table.rows?, Except.map]; rfl,
    ?_, ?_⟩
  · apply ((List.mergeSort_perm _ _).map _).nodup_iff.mpr
    have hends : (rows.map fun r => endsOf r.entry).Nodup := by
      simpa [Function.comp_def] using hkeeps.nodup
    apply List.Nodup.map_on
    · intro a ha b hb htarget
      simp only [List.mem_filter, Bool.and_eq_true, beq_iff_eq] at ha hb
      apply List.inj_on_of_nodup_map hends ha.1 hb.1
      simp only [endsOf, ha.2.1, hb.2.1, htarget]
    · exact (hends.of_map _).filter _
  · intro id
    rw [← exists_row_iff_stands hkeeps]
    simp only [List.mem_map, List.mem_mergeSort, List.mem_filter, Bool.and_eq_true, beq_iff_eq]
    constructor
    · rintro ⟨r, ⟨hr, rfl, rfl⟩, rfl⟩
      exact ⟨r, hr, rfl⟩
    · rintro ⟨r, hr, hentry⟩
      exact ⟨r, ⟨hr, by rw [hentry], by rw [hentry]⟩, by rw [hentry]⟩

theorem pairwise_sortedIds (h : ids.Nodup) : (Database.sortedIds ids).Pairwise (· < ·) := by
  have hsorted : (Database.sortedIds ids).Pairwise fun a b => decide (a ≤ b) = true := by
    apply List.pairwise_mergeSort
    · intro a b c hab hbc
      simp only [decide_eq_true_eq] at hab hbc ⊢
      exact hab.trans hbc
    · intro a b
      simpa using le_total a b
  have hnodup : (Database.sortedIds ids).Nodup := (List.mergeSort_perm _ _).nodup_iff.mpr h
  apply (hsorted.and hnodup).imp
  rintro a b ⟨hle, hne⟩
  exact lt_of_le_of_ne (by simpa using hle) hne

/-- All memberships that were written are kept. -/
theorem mem_iff_of_keepsLast {rows : List MembershipEntry} (h : KeepsLast id s.memberships rows)
    (m : MembershipEntry) : m ∈ rows ↔ m ∈ s.memberships := by
  rw [h.mem_iff, IsLast]
  constructor
  · intro hlast
    exact List.mem_reverse.mp (List.mem_of_find?_eq_some hlast)
  · intro hm
    cases hfound : s.memberships.reverse.find? fun e => id e == id m with
    | none => simpa using List.find?_eq_none.mp hfound m (List.mem_reverse.mpr hm)
    | some m' =>
      have hsame : m' = m := by simpa using List.find?_some hfound
      rw [hsame]

/-- The names that some memberships give, where no two give the same. -/
theorem sortedIds_names {rows : List MembershipEntry} (h : KeepsLast id s.memberships rows)
    (isAsked : MembershipEntry → Bool) (name : MembershipEntry → String)
    (hname : ∀ m m', isAsked m = true → isAsked m' = true → name m = name m' → m = m') :
    (Database.sortedIds ((rows.filter isAsked).map name)).Pairwise (· < ·) ∧
      ∀ id, id ∈ Database.sortedIds ((rows.filter isAsked).map name) ↔
        ∃ m ∈ s.memberships, isAsked m = true ∧ name m = id := by
  constructor
  · apply pairwise_sortedIds
    apply List.Nodup.map_on
    · intro a ha b hb
      exact hname a b (List.mem_filter.mp ha).2 (List.mem_filter.mp hb).2
    · have hnodup : rows.Nodup := by simpa using h.nodup
      exact hnodup.filter _
  · intro id
    simp only [Database.sortedIds, List.mem_mergeSort, List.mem_map, List.mem_filter,
      mem_iff_of_keepsLast h, and_assoc]

/-- The groups of a member are told in order, and are those of its memberships. -/
theorem principals_of_records (h : Records db s) (member : String) :
    ∃ ids, db.principals member = .ok ids ∧ ids.Pairwise (· < ·) ∧
      ∀ id, id ∈ ids ↔ ⟨id, member⟩ ∈ s.memberships := by
  obtain ⟨rows, hrows, hkeeps⟩ := h.memberships
  obtain ⟨hsorted, hmem⟩ := sortedIds_names hkeeps (fun r => r.member == member) (·.group) (by
    rintro ⟨g, u⟩ ⟨g', u'⟩ hu hu' hg
    simp only [beq_iff_eq] at hu hu' hg
    rw [hg, hu, hu'])
  refine ⟨_, by simp only [Database.principals, rowsFor, hrows, Table.rows?, Except.map],
    hsorted, ?_⟩
  intro id
  rw [hmem]
  constructor
  · rintro ⟨⟨g, u⟩, hm, hu, rfl⟩
    simp only [beq_iff_eq] at hu
    rwa [← hu]
  · intro hm
    exact ⟨_, hm, by simp, rfl⟩

/-- The members of a group are told in order, and are those of its memberships. -/
theorem members_of_records (h : Records db s) (group : String) :
    ∃ ids, db.members group = .ok ids ∧ ids.Pairwise (· < ·) ∧
      ∀ id, id ∈ ids ↔ ⟨group, id⟩ ∈ s.memberships := by
  obtain ⟨rows, hrows, hkeeps⟩ := h.memberships
  obtain ⟨hsorted, hmem⟩ := sortedIds_names hkeeps (fun r => r.group == group) (·.member) (by
    rintro ⟨g, u⟩ ⟨g', u'⟩ hg hg' hu
    simp only [beq_iff_eq] at hu hg hg'
    rw [hu, hg, hg'])
  refine ⟨_, by simp only [Database.members, rowsFor, hrows, Table.rows?, Except.map],
    hsorted, ?_⟩
  intro id
  rw [hmem]
  constructor
  · rintro ⟨⟨g, u⟩, hm, hg, rfl⟩
    simp only [beq_iff_eq] at hg
    rwa [← hg]
  · intro hm
    exact ⟨_, hm, by simp, rfl⟩

/-- Whether a viewer may read the last entry of an account. -/
def mayRead (s : Seed) (viewer : String) (e : AccountEntry) : Bool :=
  !e.isPrivate || e.id == viewer || stands s viewer e.id .accepted

/-- What a viewer finds under an id is the last entry of the account, unless it may not read it. -/
theorem find_of_records (h : Records db s) (viewer id : String) :
    db.find viewer (some id) =
      match lastAccount s id with
      | none => .ok none
      | some e =>
        if mayRead s viewer e then .ok (some (entityOf e))
        else .error (.denial (.unreadable viewer id)) := by
  obtain ⟨rows, hrows, hkeeps⟩ := h.accounts
  obtain ⟨ids, hids, -, hmem⟩ := connected_of_records h viewer .accepted
  have hfind : (rows.find? fun r => some r.entry.id == some id).map (·.entry) =
      lastAccount s id := by
    have hlast := hkeeps.find?_eq id
    rw [List.find?_map] at hlast
    exact hlast
  have hrow : db.rowFor (some id) = .ok (rows.find? fun r => some r.entry.id == some id) := by
    simp only [Database.rowFor, rowsFor, hrows, Table.rows?, Except.map]
  rw [Database.find_eq, hrow, ← hfind]
  cases hfound : rows.find? fun r => some r.entry.id == some id with
  | none => rfl
  | some row =>
    have hid : row.entry.id = id := by simpa using List.find?_some hfound
    have hstands : ids.contains id = stands s viewer id .accepted := by
      rw [Bool.eq_iff_iff, List.contains_iff_mem, hmem]
    simp only [Except.bind, Database.shown, Database.mayView_eq hids, Option.map_some, mayRead,
      hid, hstands]
    cases row.entry.isPrivate <;> simp

end PeopleFeed.Directory
