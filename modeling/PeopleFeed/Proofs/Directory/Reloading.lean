import PeopleFeed.Proofs.Directory.Loaded
import PeopleFeed.Proofs.Directory.Written

/-! Seeds that are loaded into a directory after others. A seed that is loaded once more changes
nothing, and two seeds come to what one does that has the sections of both. -/
namespace PeopleFeed.Directory

open PeopleFeed.Json (File Value)
open PeopleFeed.Seed

variable {codec : Json.Codec} {db after : Database} {t : Times} {s : Seed} {v v₁ v₂ : Value}

/-- A directory database: its tables have rows, and no two rows of a table are of one key. -/
structure Database.IsDirectory (db : Database) : Prop where
  accounts : ∃ rows, db.accounts = .rows rows ∧ (rows.map (·.entry.id)).Nodup
  memberships : ∃ rows, db.memberships = .rows rows ∧ rows.Nodup
  connections : ∃ rows, db.connections = .rows rows ∧ (rows.map (endsOf ·.entry)).Nodup

/-- The entries of a seed written over others. -/
def writtenOver (kept s : Seed) : Seed where
  accounts := replaceAll AccountEntry.id kept.accounts s.accounts
  memberships := addAll kept.memberships s.memberships
  connections := replaceAll endsOf kept.connections s.connections

namespace Database

/-- What the rows of a database are, apart from the times of their creation. -/
def entries (db : Database) : Seed where
  accounts := db.datedAccounts.map (·.1)
  memberships := db.membershipRows
  connections := db.datedConnections.map (·.1)

/-- A directory database after the entries of a seed. -/
def withSeed (t : Times) (db : Database) (s : Seed) : Database :=
  let d := (db.withAccounts (putAll AccountEntry.id t.account db.datedAccounts s.accounts)).withMore
    s.memberships
  d.withConnections (putAll endsOf (timeOfEnds t) d.datedConnections s.connections)

theorem write_eq_withSeed (h : db.IsDirectory) (t : Times) (s : Seed) :
    db.write t s = some (db.withSeed t s) := by
  obtain ⟨accounts, haccounts, -⟩ := h.accounts
  obtain ⟨memberships, hmemberships, -⟩ := h.memberships
  obtain ⟨connections, hconnections, -⟩ := h.connections
  have h₁ := foldlM_addAccount t db s.accounts ⟨accounts, haccounts⟩
  have h₂ := foldlM_putMembership
    (db.withAccounts (putAll AccountEntry.id t.account db.datedAccounts s.accounts)) s.memberships
    ⟨memberships, hmemberships⟩
  have h₃ := foldlM_addConnection t ((db.withAccounts
    (putAll AccountEntry.id t.account db.datedAccounts s.accounts)).withMore s.memberships)
    s.connections ⟨connections, hconnections⟩
  rw [write_eq_bind, h₁, Option.bind_some, h₂, Option.bind_some, h₃]
  rfl

theorem datedAccounts_withSeed (t : Times) (db : Database) (s : Seed) :
    (db.withSeed t s).datedAccounts =
      putAll AccountEntry.id t.account db.datedAccounts s.accounts :=
  datedAccounts_withAccounts db _

theorem datedConnections_withSeed (t : Times) (db : Database) (s : Seed) :
    (db.withSeed t s).datedConnections =
      putAll endsOf (timeOfEnds t) db.datedConnections s.connections :=
  datedConnections_withConnections _ _

theorem keys_datedAccounts {rows : List AccountRow} (h : db.accounts = .rows rows) :
    db.datedAccounts.map (·.1.id) = rows.map (·.entry.id) := by
  simp [datedAccounts, h, Table.rows?, Function.comp_def]

theorem keys_datedConnections {rows : List ConnectionRow} (h : db.connections = .rows rows) :
    db.datedConnections.map (endsOf ·.1) = rows.map (endsOf ·.entry) := by
  simp [datedConnections, h, Table.rows?, Function.comp_def]

theorem isDirectory_withSeed (h : db.IsDirectory) (t : Times) (s : Seed) :
    (db.withSeed t s).IsDirectory where
  accounts := by
    obtain ⟨rows, hrows, hnodup⟩ := h.accounts
    rw [← keys_datedAccounts hrows] at hnodup
    obtain ⟨later, hlater⟩ : ∃ later, (db.withSeed t s).accounts = .rows later := ⟨_, rfl⟩
    refine ⟨later, hlater, ?_⟩
    rw [← keys_datedAccounts hlater, datedAccounts_withSeed]
    exact nodup_keys_putAll t.account hnodup s.accounts
  memberships := by
    obtain ⟨rows, hrows, hnodup⟩ := h.memberships
    have hmembers : db.membershipRows.Nodup := by
      simpa [membershipRows, hrows, Table.rows?] using hnodup
    exact ⟨_, rfl, nodup_addAll hmembers s.memberships⟩
  connections := by
    obtain ⟨rows, hrows, hnodup⟩ := h.connections
    rw [← keys_datedConnections hrows] at hnodup
    obtain ⟨later, hlater⟩ : ∃ later, (db.withSeed t s).connections = .rows later := ⟨_, rfl⟩
    refine ⟨later, hlater, ?_⟩
    rw [← keys_datedConnections hlater, datedConnections_withSeed]
    exact nodup_keys_putAll (timeOfEnds t) hnodup s.connections

/-- To write a seed once more, at whatever times, changes nothing. -/
theorem withSeed_withSeed (t t' : Times) (db : Database) (s : Seed) :
    (db.withSeed t s).withSeed t' s = db.withSeed t s := by
  have haccounts : (db.withSeed t s).withAccounts (putAll AccountEntry.id t'.account
      (db.withSeed t s).datedAccounts s.accounts) = db.withSeed t s := by
    rw [datedAccounts_withSeed, putAll_putAll, ← datedAccounts_withSeed]
    exact withAccounts_datedAccounts rfl
  have hmemberships : (db.withSeed t s).withMore s.memberships = db.withSeed t s := by
    have hthere : ∀ m ∈ s.memberships, m ∈ (db.withSeed t s).membershipRows := by
      intro m hm
      exact (mem_addAll _ _).mpr (.inr hm)
    unfold withMore
    rw [addAll_of_subset hthere]
    rfl
  have hconnections : putAll endsOf (timeOfEnds t') (db.withSeed t s).datedConnections
      s.connections = (db.withSeed t s).datedConnections := by
    rw [datedConnections_withSeed, putAll_putAll]
  calc (db.withSeed t s).withSeed t' s
    _ = (db.withSeed t s).withConnections (putAll endsOf (timeOfEnds t')
          (db.withSeed t s).datedConnections s.connections) := by
      rw [withSeed, haccounts, hmemberships]
    _ = db.withSeed t s := by
      rw [hconnections]
      exact withConnections_datedConnections rfl

theorem entries_withSeed (t : Times) (db : Database) (s : Seed) :
    (db.withSeed t s).entries = writtenOver db.entries s := by
  have haccounts : (db.withSeed t s).entries.accounts =
      replaceAll AccountEntry.id db.entries.accounts s.accounts := by
    unfold entries
    rw [datedAccounts_withSeed, map_fst_putAll]
  have hlast : (db.withSeed t s).entries.connections =
      replaceAll endsOf db.entries.connections s.connections := by
    unfold entries
    rw [datedConnections_withSeed, map_fst_putAll]
  rw [writtenOver, ← haccounts, ← hlast]
  rfl

/-- Two seeds that are written come to one that has the sections of both. -/
theorem entries_withSeed_joinSeeds (t t' t'' : Times) (db : Database) (s u : Seed) :
    ((db.withSeed t s).withSeed t' u).entries = (db.withSeed t'' (joinSeeds s u)).entries := by
  simp only [entries_withSeed, writtenOver, joinSeeds, replaceAll, addAll, List.foldl_append]

end Database

/-- What the entries of a seed make of a database. A key that they tell of has the row of its last
entry, and one that they do not tell of has what it had. -/
structure Upserts (entries : Part → List Value) (db after : Database) : Prop where
  account : ∀ id entry, lastAccountIn (entries .accounts) id = some entry →
    ∃ row, after.account? id = some row ∧ DescribesAccount entry row.entry ∧
      (∀ f : ProfileField, entry.get? f.name = none → row.entry.columns.get f = none) ∧
      ∀ old, db.account? id = some old → row.createdAt = old.createdAt
  otherAccount : ∀ id, lastAccountIn (entries .accounts) id = none →
    after.account? id = db.account? id
  membership : ∀ m, m ∈ after.membershipRows ↔
    m ∈ db.membershipRows ∨ ∃ entry ∈ entries .memberships, DescribesMembership entry m
  connection : ∀ owner target entry,
    lastConnectionIn (entries .connections) owner target = some entry →
    ∃ row, after.connection? owner target = some row ∧ DescribesConnection entry row.entry ∧
      ∀ old, db.connection? owner target = some old → row.createdAt = old.createdAt
  otherConnection : ∀ owner target,
    lastConnectionIn (entries .connections) owner target = none →
    after.connection? owner target = db.connection? owner target

/-- A profile field that an entry does not have is empty in the account it describes. -/
theorem column_eq_none {entry : Value} {e : AccountEntry} (h : DescribesAccount entry e)
    {f : ProfileField} (habsent : entry.get? f.name = none) : e.columns.get f = none := by
  have hcolumn := h.columns f
  rw [habsent] at hcolumn
  exact Option.map_eq_none_iff.mp hcolumn.symm

theorem upserts_of_merged {entries : Part → List Value} (h : Merged s db after)
    (htold : Describes entries s) : Upserts entries db after where
  account := by
    intro id entry hentry
    have hlast := rel_lastAccount htold id
    rw [hentry] at hlast
    rcases h.account id with ⟨hnone, -⟩ | ⟨e, n, he, hrow, htime⟩
    · rw [hnone] at hlast
      cases hlast
    · rw [he] at hlast
      cases hlast with
      | some hdescribes =>
        exact ⟨⟨e, n⟩, hrow, hdescribes, fun _ => column_eq_none hdescribes, htime⟩
  otherAccount := by
    intro id hnone
    have hlast := rel_lastAccount htold id
    rw [hnone] at hlast
    rcases h.account id with ⟨-, hsame⟩ | ⟨e, n, he, -, -⟩
    · exact hsame
    · rw [he] at hlast
      cases hlast
  membership := by
    intro m
    rw [h.membership, mem_iff_describesMembership htold.memberships]
  connection := by
    intro owner target entry hentry
    have hlast := rel_lastConnection htold owner target
    rw [hentry] at hlast
    rcases h.connection owner target with ⟨hnone, -⟩ | ⟨c, n, hc, hrow, htime⟩
    · rw [hnone] at hlast
      cases hlast
    · rw [hc] at hlast
      cases hlast with
      | some hdescribes => exact ⟨⟨c, n⟩, hrow, hdescribes, htime⟩
  otherConnection := by
    intro owner target hnone
    have hlast := rel_lastConnection htold owner target
    rw [hnone] at hlast
    rcases h.connection owner target with ⟨-, hsame⟩ | ⟨c, n, hc, -, -⟩
    · exact hsame
    · rw [hc] at hlast
      cases hlast

/-- How many entries the sections of a seed have. -/
def countsIn (v : Value) : Counts :=
  ⟨(entriesOf v .accounts).length, (entriesOf v .memberships).length,
    (entriesOf v .connections).length⟩

theorem countsIn_of_ofValue (h : Seed.ofValue v = .ok s) : countsIn v = Counts.ofSeed s := by
  have htold := describes_of_ofValue h
  unfold countsIn Counts.ofSeed
  rw [htold.accounts.length_eq, htold.memberships.length_eq, htold.connections.length_eq]

/-- A value whose sections are those of two others, one behind the other. -/
structure Joins (v₁ v₂ v : Value) : Prop where
  isObject : ∃ fields, v = .obj fields
  sections : ∀ part : Part,
    (v.get? part.name).getD (.arr []) = .arr (entriesOf v₁ part ++ entriesOf v₂ part)

theorem Joins.entriesOf_eq (h : Joins v₁ v₂ v) (part : Part) :
    entriesOf v part = entriesOf v₁ part ++ entriesOf v₂ part := by
  have hsection := h.sections part
  unfold entriesOf at hsection ⊢
  cases hfound : v.get? part.name with
  | none =>
    rw [hfound] at hsection
    simpa using hsection
  | some found =>
    rw [hfound, Option.getD_some] at hsection
    rw [hsection]

/-- The seed that the entries of a value describe. -/
def seedIn (v : Value) : Seed where
  accounts := (entriesOf v .accounts).filterMap account?
  memberships := (entriesOf v .memberships).filterMap membership?
  connections := (entriesOf v .connections).filterMap connection?

theorem ofValue_of_validate (h : validate v = []) : Seed.ofValue v = .ok (seedIn v) := by
  unfold Seed.ofValue
  rw [h]
  rfl

theorem Joins.seedIn_eq (h : Joins v₁ v₂ v) : seedIn v = joinSeeds (seedIn v₁) (seedIn v₂) := by
  simp only [seedIn, joinSeeds, h.entriesOf_eq, List.filterMap_append]

/-- Two good seeds one behind the other are a good seed. -/
theorem Joins.validate_eq_nil (h : Joins v₁ v₂ v) (h₁ : validate v₁ = []) (h₂ : validate v₂ = []) :
    validate v = [] := by
  obtain ⟨fields, rfl⟩ := h.isObject
  apply Seed.validate_eq_nil h.sections
  intro part entry hentry
  rcases List.mem_append.mp hentry with hfirst | hsecond
  · exact entryProblems_of_validate h₁ part entry hfirst
  · exact entryProblems_of_validate h₂ part entry hsecond

theorem Joins.isEncodable {st : Text.Standins} (h : Joins v₁ v₂ v)
    (h₁ : IsEncodable st (seedIn v₁)) (h₂ : IsEncodable st (seedIn v₂)) :
    IsEncodable st (seedIn v) := by
  rw [h.seedIn_eq]
  exact ⟨List.forall_mem_append.mpr ⟨h₁.accounts, h₂.accounts⟩,
    List.forall_mem_append.mpr ⟨h₁.memberships, h₂.memberships⟩,
    List.forall_mem_append.mpr ⟨h₁.connections, h₂.connections⟩⟩

theorem readSeed_of_validate {path : String} {file : File} (hread : file.read codec path = .ok v)
    (hvalid : validate v = []) : readSeed codec path file = .ok (seedIn v) := by
  unfold readSeed
  rw [hread]
  simp only [ofValue_of_validate hvalid]

theorem load_of_validate {path : String} {file : File} (hdb : db.IsDirectory)
    (hread : file.read codec path = .ok v) (hvalid : validate v = [])
    (hencodable : IsEncodable codec.standins (seedIn v)) (t : Times) :
    load codec t path file db false = .ok (countsIn v, db.withSeed t (seedIn v)) := by
  unfold load
  rw [readSeed_of_validate hread hvalid]
  simp only [writeSeed_of_isEncodable hencodable, Database.write_eq_withSeed hdb, Option.elim_some,
    countsIn_of_ofValue (ofValue_of_validate hvalid)]

/-- A seed that a database takes, sealed or not, is written as in any other. -/
theorem eq_of_load {path : String} {file : File} {counts : Counts} {isSealed : Bool}
    (hdb : db.IsDirectory) (hread : file.read codec path = .ok v) (hvalid : validate v = [])
    (h : load codec t path file db isSealed = .ok (counts, after)) :
    counts = countsIn v ∧ after = db.withSeed t (seedIn v) := by
  unfold load at h
  rw [readSeed_of_validate hread hvalid] at h
  dsimp only at h
  cases hwrite : writeSeed codec.standins t db isSealed (seedIn v) with
  | error failure =>
    rw [hwrite] at h
    cases h
  | ok written =>
    rw [hwrite] at h
    cases h
    have hsome := write_of_writeSeed hwrite
    rw [Database.write_eq_withSeed hdb] at hsome
    exact ⟨(countsIn_of_ofValue (ofValue_of_validate hvalid)).symm, (Option.some.inj hsome).symm⟩

/-- Seeds whose texts can be encoded, loaded into a directory at any times. The first one leaves for
every key that it tells of the row of its last entry, and all other rows; to load it once more
changes nothing. The second one leaves behind it the rows that the two leave as one. -/
theorem load_load {path₁ path₂ path : String} {file₁ file₂ file : File} (hdb : db.IsDirectory)
    (hread₁ : file₁.read codec path₁ = .ok v₁) (hread₂ : file₂.read codec path₂ = .ok v₂)
    (hread : file.read codec path = .ok v) (hvalid₁ : validate v₁ = [])
    (hvalid₂ : validate v₂ = []) (hencodable₁ : IsEncodable codec.standins (seedIn v₁))
    (hencodable₂ : IsEncodable codec.standins (seedIn v₂)) (hjoins : Joins v₁ v₂ v)
    (t₁ t₁' t₂ t : Times) :
    ∃ once both all,
      load codec t₁ path₁ file₁ db false = .ok (countsIn v₁, once) ∧
      once.IsDirectory ∧ Upserts (entriesOf v₁) db once ∧
      load codec t₁' path₁ file₁ once false = .ok (countsIn v₁, once) ∧
      load codec t₂ path₂ file₂ once false = .ok (countsIn v₂, both) ∧
      load codec t path file db false = .ok (countsIn v, all) ∧
      both.IsDirectory ∧ all.IsDirectory ∧ both.entries = all.entries ∧
      ∀ counts after, load codec t₁ path₁ file₁ db true = .ok (counts, after) →
        counts = countsIn v₁ ∧ after = once := by
  have hvalid := hjoins.validate_eq_nil hvalid₁ hvalid₂
  have hencodable := hjoins.isEncodable hencodable₁ hencodable₂
  have honce := Database.isDirectory_withSeed hdb t₁ (seedIn v₁)
  have hboth := Database.isDirectory_withSeed honce t₂ (seedIn v₂)
  have hall := Database.isDirectory_withSeed hdb t (seedIn v)
  refine ⟨_, _, _, load_of_validate hdb hread₁ hvalid₁ hencodable₁ t₁, honce, ?_, ?_,
    load_of_validate honce hread₂ hvalid₂ hencodable₂ t₂,
    load_of_validate hdb hread hvalid hencodable t, hboth, hall, ?_, ?_⟩
  · have hmerged := merged_of_write (Database.write_eq_withSeed hdb t₁ (seedIn v₁))
    exact upserts_of_merged hmerged (describes_of_ofValue (ofValue_of_validate hvalid₁))
  · have hagain := load_of_validate honce hread₁ hvalid₁ hencodable₁ t₁'
    rwa [Database.withSeed_withSeed] at hagain
  · rw [hjoins.seedIn_eq]
    exact Database.entries_withSeed_joinSeeds t₁ t₂ t db (seedIn v₁) (seedIn v₂)
  · intro counts after hsealed
    exact eq_of_load hdb hread₁ hvalid₁ hsealed

/-- Two entries of Dan: in the first one he has an address, and in the second one he is private. -/
def danEntries : List Value :=
  [.obj [("id", .str "dan"), ("email", .str "dan@example.org")],
    .obj [("id", .str "dan"), ("private", .bool true)]]

/-- A seed that tells of Dan twice. -/
def dansSeed : Value :=
  .obj [("accounts", .arr danEntries)]

/-- A seed that tells of Dan twice, and that Ann has a connection to him. -/
def dansFriendSeed : Value :=
  .obj [("accounts", .arr danEntries),
    ("connections", .arr [.obj [("owner", .str "ann"), ("target", .str "dan")]])]

theorem rereadable_danEntries (digits room : Nat) :
    ∀ v ∈ danEntries, Json.Rereadable digits (room + 1) v := by
  intro v hv
  simp only [danEntries, List.mem_cons, List.not_mem_nil, or_false] at hv
  rcases hv with rfl | rfl
  · exact .obj (by decide) (by simpa using ⟨.str _ _, .str _ _⟩)
  · exact .obj (by decide) (by simpa using ⟨.str _ _, .bool _ _⟩)

theorem read_dansSeed : (File.ofValue dansSeed).read .ample "dans.json" = .ok dansSeed := by
  apply Json.read_ofValue
  refine .obj (by decide) ?_
  simp only [List.forall_mem_singleton]
  exact .arr (rereadable_danEntries _ _)

theorem read_dansFriendSeed :
    (File.ofValue dansFriendSeed).read .ample "both.json" = .ok dansFriendSeed := by
  apply Json.read_ofValue
  refine .obj (by decide) ?_
  simp only [List.forall_mem_cons, List.not_mem_nil, false_implies, implies_true, and_true]
  refine ⟨.arr (rereadable_danEntries _ _), .arr ?_⟩
  simp only [List.forall_mem_singleton]
  exact .obj (by decide) (by simpa using ⟨.str _ _, .str _ _⟩)

theorem joins_dansFriendSeed : Joins dansSeed friendSeed dansFriendSeed where
  isObject := ⟨_, rfl⟩
  sections := by
    intro part
    cases part <;> rfl

theorem isDirectory_danDatabase : danDatabase.IsDirectory where
  accounts := ⟨_, rfl, by decide⟩
  memberships := ⟨_, rfl, by decide⟩
  connections := ⟨_, rfl, by decide⟩

theorem isEncodable_dansSeed : IsEncodable .last (seedIn dansSeed) where
  accounts := by decide
  memberships := by decide
  connections := by decide

theorem isEncodable_friendSeed : IsEncodable .last (seedIn friendSeed) where
  accounts := by decide
  memberships := by decide
  connections := by decide

/-- Dan and the connection to him are in the directory before the two seeds are. -/
theorem load_load_danDatabase : ∃ once both all,
    load .ample (.constant 3) "dans.json" (File.ofValue dansSeed) danDatabase false =
      .ok (⟨2, 0, 0⟩, once) ∧
    load .ample (.constant 4) "dans.json" (File.ofValue dansSeed) once false =
      .ok (⟨2, 0, 0⟩, once) ∧
    load .ample (.constant 5) "friend.json" (File.ofValue friendSeed) once false =
      .ok (⟨0, 0, 1⟩, both) ∧
    load .ample (.constant 6) "both.json" (File.ofValue dansFriendSeed) danDatabase false =
      .ok (⟨2, 0, 1⟩, all) ∧
    both.entries = all.entries := by
  obtain ⟨once, both, all, honce, -, -, hagain, hboth, hall, -, -, hsame, -⟩ :=
    load_load isDirectory_danDatabase read_dansSeed read_friendSeed read_dansFriendSeed rfl rfl
      isEncodable_dansSeed isEncodable_friendSeed joins_dansFriendSeed (.constant 3) (.constant 4)
      (.constant 5) (.constant 6)
  exact ⟨once, both, all, honce, hagain, hboth, hall, hsame⟩

end PeopleFeed.Directory
