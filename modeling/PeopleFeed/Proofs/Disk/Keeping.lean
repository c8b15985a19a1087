import PeopleFeed.Disk.Connection
import PeopleFeed.Proofs.Disk.Making

/-! The rows of a database in a tree of files. To make directories or the tables of a database, and
to connect to it, leaves the rows at its place as they were. -/
namespace PeopleFeed

namespace Directory

open PeopleFeed.Seed (MembershipEntry)

/-- The rows of all tables. -/
structure Rows where
  accounts : List AccountRow
  memberships : List MembershipEntry
  connections : List ConnectionRow

/-- What rows are, apart from the times of their creation. -/
def Rows.entries (r : Rows) : Seed :=
  ⟨r.accounts.map (·.entry), r.memberships, r.connections.map (·.entry)⟩

/-- The rows of the tables of a database. -/
def Database.rows (db : Database) : Rows :=
  ⟨db.accounts.rows?.getD [], db.memberships.rows?.getD [], db.connections.rows?.getD []⟩

/-- Tables that are made have no rows. -/
theorem Database.rows_createTables (db : Database) : db.createTables.rows = db.rows := by
  obtain ⟨accounts, memberships, connections⟩ := db
  cases accounts <;> cases memberships <;> cases connections <;> rfl

end Directory

namespace Disk

open PeopleFeed.Directory (Database FileUse Location Rows Stored)

variable {t u : Tree}

section

variable {engine : Engine} {rowsAt : Tree → engine.Location → Rows} {l : engine.Location}

/-- What is known of an engine whose locations have rows. Connections and directories that are made
change no rows, a database that is found has the rows of its location, and one that is kept leaves
its own there, unless nothing is changed. Where one with tables is found that may be changed, what
is kept is there. -/
structure Engine.Lawful (engine : Engine) (rowsAt : Tree → engine.Location → Rows) : Prop where
  made {t u : Tree} (l : engine.Location) (h : t.Extends u) : rowsAt u l = rowsAt t l
  connected (l : engine.Location) (t : Tree) : rowsAt (engine.connect l t).1 l = rowsAt t l
  found {l : engine.Location} {t : Tree} {db : Database} {isSealed : Bool}
    (h : engine.found l t = .database db isSealed) : db.rows = rowsAt t l
  kept (l : engine.Location) (db : Database) (t : Tree) :
    rowsAt (engine.keep l db t) l = db.rows ∨ rowsAt (engine.keep l db t) l = rowsAt t l
  changed {l : engine.Location} {t : Tree} {db : Database}
    (h : engine.found l t = .database db false) (htables : db ≠ .bare) (after : Database) :
    rowsAt (engine.keep l after (engine.connect l t).1) l = after.rows

/-- To make the tables of a database leaves its rows. -/
theorem Engine.Lawful.rowsAt_prepareDatabase {path : String} (hlaws : engine.Lawful rowsAt)
    (h : engine.prepareDatabase t path = (u, .ok l)) : rowsAt u l = rowsAt t l := by
  unfold prepareDatabase at h
  split at h
  · cases h
  rename_i made hmade
  split at h
  · cases h
  rename_i location hlocation
  dsimp only at h
  split at h
  · cases h
  rename_i tables hprepared
  cases h
  have hparents : rowsAt made l = rowsAt t l := by
    have hextends := Tree.extends_makeDirectories t (Text.parentPath path)
    rw [hmade] at hextends
    exact hlaws.made l hextends
  rw [← hparents, ← hlaws.connected l made]
  rcases hlaws.kept l tables (engine.connect l made).1 with hkept | hsame
  · rw [hkept, hlaws.connected l made]
    cases hstored : (engine.connect l made).2 with
    | database found isSealed =>
      rw [hstored] at hprepared
      unfold Stored.prepare at hprepared
      dsimp only at hprepared
      split at hprepared
      · cases hprepared
      · cases hprepared
        rw [Database.rows_createTables]
        exact hlaws.found hstored
    | unopenable | garbage | barred =>
      rw [hstored] at hprepared
      cases hprepared
  · exact hsame

end

variable {p q : Place} {n : Node} {use : FileUse} {db : Database} {isSealed : Bool}
  {path : FileName} {b : Bounds}

/-- The rows in a node, of which only a database has any. -/
def Node.rows : Node → Rows
  | .database db => db.rows
  | .directory | .bytes _ => Database.bare.rows

/-- The rows at a place. -/
def Tree.rowsIn (t : Tree) (p : Place) : Rows :=
  ((t.nodeAt? p).map Node.rows).getD Database.bare.rows

/-- The rows at a location. -/
def Tree.rowsAt (t : Tree) : Location → Rows
  | .file path _ => t.rowsIn (Place.ofPath path)
  | .memory (some name) _ => ((t.memories.lookup name).getD .bare).rows
  | .memory none _ | .nowhere | .barred _ => Database.bare.rows

namespace Tree

theorem Extends.rowsIn_eq (h : t.Extends u) (p : Place) : u.rowsIn p = t.rowsIn p := by
  rcases h.nodes p with hsame | ⟨hnone, hmade⟩
  · rw [rowsIn, hsame, rowsIn]
  · rw [rowsIn, hmade, rowsIn, hnone]
    rfl

theorem Extends.rowsAt_eq (h : t.Extends u) (l : Location) : u.rowsAt l = t.rowsAt l := by
  cases l with
  | file path use => exact h.rowsIn_eq (Place.ofPath path)
  | memory shared isSealed =>
    cases shared with
    | none => rfl
    | some name =>
      unfold rowsAt
      rw [h.memories]
  | nowhere | barred => rfl

/-- The place of a database is told by its path alone. -/
theorem eq_ofPath_of_databasePlace? (h : t.databasePlace? b path = some p) :
    p = Place.ofPath path := by
  have hfold : ∀ (names : List FileName) (p q : Place), names.foldlM (t.enterUnseen b) p = some q →
      q = names.foldl Place.child p := by
    intro names
    induction names with
    | nil =>
      intro p q hq
      exact (Option.some.inj hq).symm
    | cons name names ih =>
      intro p q hq
      obtain ⟨next, hnext, hrest⟩ := Option.bind_eq_some_iff.mp hq
      have hchild : next = p.child name := by
        unfold enterUnseen at hnext
        dsimp only at hnext
        repeat' split at hnext
        all_goals cases hnext
        all_goals rfl
      rw [List.foldl_cons, ← hchild]
      exact ih next q hrest
  obtain ⟨q, hq, hlength⟩ := Option.bind_eq_some_iff.mp h
  split at hlength
  · cases hlength
    exact hfold _ _ _ hq
  · cases hlength

theorem beside_ne {ending : String} (h : Text.encodeUtf8 ending ≠ []) : p.beside ending ≠ p := by
  intro hsame
  unfold Place.beside at hsame
  rcases List.eq_nil_or_concat p with rfl | ⟨names, name, rfl⟩
  · cases hsame
  · simp at hsame
    exact h hsame

theorem nodeAt?_remove (h : q ≠ p) : (t.remove p).nodeAt? q = t.nodeAt? q := by
  simp [nodeAt?, remove, lookup_filter_ne _ h]

theorem nodeAt?_remove_beside {ending : String} (h : Text.encodeUtf8 ending ≠ []) :
    (t.remove (p.beside ending)).nodeAt? p = t.nodeAt? p :=
  nodeAt?_remove (beside_ne h).symm

/-- What is put in order beside a database leaves the file of it. -/
theorem nodeAt?_of_settleRollback (h : t.settleRollback p n use = some u) :
    u.nodeAt? p = t.nodeAt? p := by
  have hremoved : (t.remove (p.beside rollbackEnding)).nodeAt? p = t.nodeAt? p :=
    nodeAt?_remove_beside (by decide +kernel)
  unfold settleRollback at h
  dsimp only at h
  repeat' split at h
  all_goals cases h
  all_goals first | exact hremoved | rfl

theorem nodeAt?_of_settleLog (h : t.settleLog p n use = some u) :
    u.nodeAt? p = t.nodeAt? p := by
  have hremoved : (t.remove (p.beside changesEnding)).nodeAt? p = t.nodeAt? p :=
    nodeAt?_remove_beside (by decide +kernel)
  unfold settleLog at h
  repeat' split at h
  all_goals cases h
  all_goals first | exact hremoved | rfl

/-- A connection to the file at a place leaves what is there, and finds the database of it. -/
theorem connectFile_cases (t : Tree) (p : Place) (n : Node) (use : FileUse) :
    (t.connectFile p n use).1.nodeAt? p = t.nodeAt? p ∧
      ((t.connectFile p n use).2 = .unopenable ∨
        ∃ isSealed, (t.connectFile p n use).2 = n.asStored isSealed) := by
  unfold connectFile
  split
  · exact ⟨rfl, .inr ⟨true, rfl⟩⟩
  · split
    · exact ⟨rfl, .inl rfl⟩
    · split
      · exact ⟨rfl, .inl rfl⟩
      · rename_i settled hsettled
        have hsame := nodeAt?_of_settleRollback hsettled
        split
        · exact ⟨hsame, .inl rfl⟩
        · rename_i followed hfollowed
          exact ⟨(nodeAt?_of_settleLog hfollowed).trans hsame, .inr ⟨_, rfl⟩⟩

end Tree

/-- A node that is taken for a database has its rows. -/
theorem Node.rows_of_asStored {b : Bool} (h : n.asStored b = .database db isSealed) :
    db.rows = n.rows := by
  unfold asStored at h
  split at h
  · rename_i hvacant
    cases h
    cases n with
    | bytes => rfl
    | directory | database => cases hvacant
  · cases n with
    | database =>
      cases h
      rfl
    | directory | bytes => cases h

namespace Tree

theorem rowsIn_of_nodeAt? (h : t.nodeAt? p = some n) : t.rowsIn p = n.rows := by
  rw [rowsIn, h]
  rfl

theorem rowsIn_connectFile (h : t.nodeAt? p = some n) :
    (t.connectFile p n use).1.rowsIn p = n.rows ∧
    ∀ db isSealed, (t.connectFile p n use).2 = .database db isSealed → db.rows = n.rows := by
  obtain ⟨hsame, hfound⟩ := connectFile_cases t p n use
  refine ⟨rowsIn_of_nodeAt? (hsame.trans h), ?_⟩
  intro db isSealed hdb
  rcases hfound with hunopenable | ⟨b, hstored⟩
  · rw [hunopenable] at hdb
    cases hdb
  · exact Node.rows_of_asStored (hstored.symm.trans hdb)

theorem rowsIn_connectAt (t : Tree) (p : Place) (use : FileUse) :
    (t.connectAt p use).1.rowsIn p = t.rowsIn p ∧
    ∀ db isSealed, (t.connectAt p use).2 = .database db isSealed → db.rows = t.rowsIn p := by
  have hclosed : t.rowsIn p = t.rowsIn p ∧
      ∀ db isSealed, Stored.unopenable = .database db isSealed → db.rows = t.rowsIn p :=
    ⟨rfl, nofun⟩
  unfold connectAt
  split
  · split
    · exact hclosed
    · rename_i n _ hn
      rw [rowsIn_of_nodeAt? hn]
      exact rowsIn_connectFile hn
    · rename_i hnone
      split
      · have hmade : (t.put p (.bytes [])).nodeAt? p = some (.bytes []) := by
          rw [nodeAt?_put t p p _ (isOutermost_of_nodeAt? hnone), if_pos rfl]
        have hrows : t.rowsIn p = Node.rows (.bytes []) := by
          rw [rowsIn, hnone]
          rfl
        rw [hrows]
        exact rowsIn_connectFile hmade
      · exact hclosed
  · exact hclosed

/-- A connection leaves the rows at its location, and those are what it finds. -/
theorem rowsAt_connect (b : Bounds) (t : Tree) (l : Location) :
    (t.connect b l).1.rowsAt l = t.rowsAt l ∧
    ∀ db isSealed, (t.connect b l).2 = .database db isSealed → db.rows = t.rowsAt l := by
  cases l with
  | file path use =>
    unfold connect
    dsimp only
    split
    · rename_i p hp
      obtain rfl := eq_ofPath_of_databasePlace? hp
      exact rowsIn_connectAt t (Place.ofPath path) use
    · exact ⟨rfl, nofun⟩
  | memory shared isSealed =>
    refine ⟨by cases shared <;> rfl, ?_⟩
    intro db isSealed hdb
    cases shared <;> cases hdb <;> rfl
  | nowhere | barred => exact ⟨rfl, nofun⟩

/-- A database that is kept at a place below the outermost ones is there. -/
theorem rowsIn_keepAt (h : p.isOutermost = false) (t : Tree) (db : Database) :
    (t.keepAt p db).rowsIn p = db.rows := by
  unfold keepAt
  split
  · rename_i hthere
    exact rowsIn_of_nodeAt? hthere
  · have hnode (u : Tree) : (u.put p (.database db)).nodeAt? p = some (.database db) := by
      rw [nodeAt?_put u p p _ h, if_pos rfl]
    exact rowsIn_of_nodeAt? (hnode _)

theorem rowsIn_keepAt_of_isOutermost (h : p.isOutermost = true) (t : Tree) (db : Database) :
    (t.keepAt p db).rowsIn p = t.rowsIn p := by
  simp [rowsIn, nodeAt?, h]

/-- A database that is kept at a location is there, unless nothing is changed. -/
theorem rowsAt_keep (b : Bounds) (t : Tree) (l : Location) (db : Database) :
    (t.keep b l db).rowsAt l = db.rows ∨ (t.keep b l db).rowsAt l = t.rowsAt l := by
  cases l with
  | file path use =>
    unfold keep
    dsimp only
    split
    · rename_i p hp
      obtain rfl := eq_ofPath_of_databasePlace? hp
      cases houtermost : (Place.ofPath path).isOutermost with
      | false => exact .inl (rowsIn_keepAt houtermost t db)
      | true => exact .inr (rowsIn_keepAt_of_isOutermost houtermost t db)
    · exact .inr rfl
  | memory shared isSealed =>
    cases shared with
    | none => exact .inr rfl
    | some name =>
      refine .inl ?_
      simp [keep, rowsAt]
  | nowhere | barred => exact .inr rfl

end Tree

/-! Where a database with tables is found that may be changed, only files are taken away beside it,
and no way leads through these. -/

namespace Tree

variable {r : Place} {name : FileName} {names : List FileName}

theorem nodeAt?_remove_of_directory (hq : t.isDirectory q = false)
    (hp : t.nodeAt? p = some .directory) : (t.remove q).nodeAt? p = some .directory := by
  rw [← hp]
  apply nodeAt?_remove
  rintro rfl
  simp [isDirectory, hp] at hq

theorem nodeAt?_remove_of_missing (hp : t.nodeAt? p = none) : (t.remove q).nodeAt? p = none := by
  by_cases h : p = q
  · subst h
    have hgone : (t.nodes.filter fun e => e.1 != p).lookup p = none := by
      rw [List.lookup_eq_none_iff]
      intro e he
      have hne := (List.mem_filter.mp he).2
      simp only [bne_iff_ne, ne_eq] at hne
      simp [Ne.symm hne]
    simp [nodeAt?, isOutermost_of_nodeAt? hp, remove, hgone]
  · rw [nodeAt?_remove h, hp]

theorem follow_remove (hq : t.isDirectory q = false) (hp : t.follow r names = .ok p) :
    (t.remove q).follow r names = .ok p := by
  induction names using List.reverseRecOn generalizing p with
  | nil => exact hp
  | append_singleton above name ih =>
    obtain ⟨s, hs, hdirectory, hlength, hchild⟩ := follow_concat_eq_ok_iff.mp hp
    exact follow_concat_eq_ok_iff.mpr
      ⟨s, ih hs, nodeAt?_remove_of_directory hq hdirectory, hlength, hchild⟩

theorem follow_remove_of_missing (hq : t.isDirectory q = false)
    (h : t.follow r names = .error .missing) : (t.remove q).follow r names = .error .missing := by
  induction names using List.reverseRecOn with
  | nil => cases h
  | append_singleton above name ih =>
    cases habove : t.follow r above with
    | error o =>
      rw [follow_append_of_error habove] at h
      cases h
      exact follow_append_of_error (ih habove) [name]
    | ok s =>
      rw [follow_concat, habove] at h
      rw [follow_concat, follow_remove hq habove]
      cases hs : t.nodeAt? s with
      | none => exact enter_of_missing (nodeAt?_remove_of_missing hs) name
      | some n =>
        exfalso
        have henter : t.enter s name = .error .missing := h
        cases n with
        | directory =>
          rw [enter_of_directory hs] at henter
          split at henter <;> cases henter
        | bytes | database =>
          rw [enter_of_file hs (by simp)] at henter
          cases henter

theorem seek_remove (hq : t.isDirectory q = false) (hp : t.seek path = .ok p) :
    (t.remove q).seek path = .ok p := by
  cases hobstacle : obstacleIn? path with
  | some o => simp [seek, hobstacle] at hp
  | none =>
    simp only [seek, hobstacle] at hp ⊢
    exact follow_remove hq hp

theorem seek_remove_of_missing (hq : t.isDirectory q = false) (h : t.seek path = .error .missing) :
    (t.remove q).seek path = .error .missing := by
  cases hobstacle : obstacleIn? path with
  | some o =>
    simp only [seek, hobstacle] at h ⊢
    exact h
  | none =>
    simp only [seek, hobstacle] at h ⊢
    exact follow_remove_of_missing hq h

theorem enterUnseen_remove (hq : t.isDirectory q = false) (h : t.enterUnseen b p name = some r) :
    (t.remove q).enterUnseen b p name = some r := by
  unfold enterUnseen at h ⊢
  dsimp only at h ⊢
  split at h
  · rename_i habove
    rwa [if_pos habove]
  · rename_i habove
    rw [if_neg habove]
    split at h
    · cases h
    · rename_i hlength
      rw [if_neg hlength]
      split at h
      · rename_i hseek
        rwa [seek_remove hq hseek]
      · rename_i hseek
        rwa [seek_remove_of_missing hq hseek]
      · cases h

theorem databasePlace?_remove (hq : t.isDirectory q = false)
    (h : t.databasePlace? b path = some p) : (t.remove q).databasePlace? b path = some p := by
  have hfold : ∀ (names : List FileName) (r s : Place),
      names.foldlM (t.enterUnseen b) r = some s →
        names.foldlM ((t.remove q).enterUnseen b) r = some s := by
    intro names
    induction names with
    | nil => exact fun _ _ hs => hs
    | cons name names ih =>
      intro r s hs
      obtain ⟨next, hnext, hrest⟩ := Option.bind_eq_some_iff.mp hs
      exact Option.bind_eq_some_iff.mpr ⟨next, enterUnseen_remove hq hnext, ih next s hrest⟩
  obtain ⟨s, hs, hlength⟩ := Option.bind_eq_some_iff.mp h
  exact Option.bind_eq_some_iff.mpr ⟨s, hfold _ _ _ hs, hlength⟩

theorem isDirectory_of_companion? {ending : String} (h : t.companion? p ending = some n)
    (hfile : n ≠ .directory) : t.isDirectory (p.beside ending) = false := by
  obtain ⟨hnode, -⟩ := Option.filter_eq_some_iff.mp h
  cases n with
  | directory => exact absurd rfl hfile
  | bytes | database => simp [isDirectory, hnode]

/-- A tree is another one, or one where a file is taken away beside a place. -/
def Clears (p : Place) (t u : Tree) : Prop :=
  u = t ∨ ∃ ending, t.isDirectory (p.beside ending) = false ∧ u = t.remove (p.beside ending)

theorem clears_of_settleRollback (hn : n.isVacant = false)
    (h : t.settleRollback p n use = some u) : Clears p t u := by
  unfold settleRollback at h
  simp only [hn] at h
  split at h
  · cases h
    exact .inl rfl
  · rename_i found hfound
    by_cases hdirectory : found = .directory
    · simp only [hdirectory, if_true] at h
      split at h <;> cases h
      exact .inl rfl
    · have hcleared := isDirectory_of_companion? hfound hdirectory
      repeat' split at h
      all_goals cases h
      all_goals first | exact .inl rfl | exact .inr ⟨_, hcleared, rfl⟩

theorem eq_of_settleLog (hn : n.isVacant = false) (h : t.settleLog p n use = some u) :
    u = t := by
  unfold settleLog at h
  simp only [hn, Bool.false_eq_true, if_false] at h
  repeat' split at h
  all_goals cases h
  all_goals rfl

theorem Clears.databasePlace?_eq (h : Clears p t u) (hq : t.databasePlace? b path = some q) :
    u.databasePlace? b path = some q := by
  obtain rfl | ⟨ending, hcleared, rfl⟩ := h
  · exact hq
  · exact databasePlace?_remove hcleared hq

theorem eq_of_asStored {c : Bool} (h : n.asStored c = .database db isSealed)
    (htables : db ≠ .bare) : n = .database db := by
  unfold Node.asStored at h
  split at h
  · cases h
    exact absurd rfl htables
  · cases n with
    | database =>
      cases h
      rfl
    | directory | bytes => cases h

/-- A connection to a file that finds a database with tables takes at most a file beside it away. -/
theorem clears_connectFile (h : (t.connectFile p n use).2 = .database db isSealed)
    (htables : db ≠ .bare) : n = .database db ∧ Clears p t (t.connectFile p n use).1 := by
  unfold connectFile at h ⊢
  by_cases hfixed : use.isFixed = true
  · rw [if_pos hfixed] at h ⊢
    exact ⟨eq_of_asStored h htables, .inl rfl⟩
  rw [if_neg hfixed] at h ⊢
  by_cases hlock : (!t.isLockFree p use) = true
  · rw [if_pos hlock] at h
    cases h
  rw [if_neg hlock] at h ⊢
  cases hsettled : t.settleRollback p n use with
  | none =>
    rw [hsettled] at h
    cases h
  | some settled =>
    simp only [hsettled] at h ⊢
    cases hfollowed : settled.settleLog p n use with
    | none =>
      rw [hfollowed] at h
      cases h
    | some followed =>
      simp only [hfollowed] at h ⊢
      obtain rfl := eq_of_asStored h htables
      rw [eq_of_settleLog rfl hfollowed]
      exact ⟨rfl, clears_of_settleRollback rfl hsettled⟩

theorem clears_connectAt (h : (t.connectAt p use).2 = .database db isSealed)
    (htables : db ≠ .bare) :
    p.isOutermost = false ∧ Clears p t (t.connectAt p use).1 := by
  unfold connectAt at h ⊢
  by_cases hready : (t.hasModel use && t.isDirectory p.parent) = true
  · rw [if_pos hready] at h ⊢
    cases hn : t.nodeAt? p with
    | none =>
      simp only [hn] at h
      split at h
      · -- A file that is made has no tables.
        obtain ⟨hmade, -⟩ := clears_connectFile h htables
        cases hmade
      · cases h
    | some n =>
      have houtermost : n = .database db → p.isOutermost = false := by
        rintro rfl
        cases houtermost : p.isOutermost with
        | false => rfl
        | true => simp [nodeAt?, houtermost] at hn
      cases n with
      | directory =>
        simp only [hn] at h
        cases h
      | bytes | database =>
        simp only [hn] at h ⊢
        obtain ⟨hnode, hclears⟩ := clears_connectFile h htables
        exact ⟨houtermost hnode, hclears⟩
  · rw [if_neg hready] at h
    cases h

/-- What is kept where a database with tables was found that may be changed is there. -/
theorem rowsAt_keep_connect {l : Location} (h : (t.connect b l).2 = .database db false)
    (htables : db ≠ .bare) (after : Database) :
    ((t.connect b l).1.keep b l after).rowsAt l = after.rows := by
  cases l with
  | file path use =>
    unfold connect at h ⊢
    dsimp only at h ⊢
    cases hp : t.databasePlace? b path with
    | none =>
      simp only [hp] at h
      cases h
    | some p =>
      simp only [hp] at h ⊢
      obtain ⟨houtermost, hclears⟩ := clears_connectAt h htables
      have hplace := hclears.databasePlace?_eq hp
      unfold keep
      simp only [hplace]
      rw [eq_ofPath_of_databasePlace? hp] at houtermost ⊢
      exact rowsIn_keepAt houtermost _ after
  | memory shared isSealed =>
    cases shared with
    | none =>
      cases h
      exact absurd rfl htables
    | some name => simp [connect, keep, rowsAt]
  | nowhere | barred => cases h

end Tree

/-- An engine that keeps databases in files obeys the laws. -/
theorem lawful_fileEngine (b : Bounds) (heading : Database → List UInt8) :
    (fileEngine b heading).Lawful Tree.rowsAt where
  made l h := h.rowsAt_eq l
  connected l t := (Tree.rowsAt_connect b t l).1
  found h := (Tree.rowsAt_connect b _ _).2 _ _ h
  kept l db t := Tree.rowsAt_keep b t l db
  changed h htables after := Tree.rowsAt_keep_connect h htables after

end Disk

end PeopleFeed
