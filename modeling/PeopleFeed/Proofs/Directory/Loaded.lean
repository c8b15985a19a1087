import PeopleFeed.Proofs.Directory.Answers
import PeopleFeed.Proofs.Json.Reading
import PeopleFeed.Proofs.Seed.Entries

/-! What a directory answers that was loaded from seed files, by the entries of the files. -/
namespace PeopleFeed.Directory

open PeopleFeed.Feed (Entity)
open PeopleFeed.Json (File Value)
open PeopleFeed.Seed

variable {db after : Database} {s : Seed} {told more : Part → List Value}

/-- A seed file that is loaded into a database, which may be sealed by then, with what it is read by
and when its rows are added. -/
structure SeedLoad where
  codec : Json.Codec
  times : Times
  path : String
  file : Json.File
  isSealed : Bool

/-- The entries of a section of a seed file. -/
def SeedLoad.entries (l : SeedLoad) (part : Part) : List Value :=
  match l.file.read l.codec l.path with
  | .ok v => entriesOf v part
  | .error _ => []

def SeedLoad.run (l : SeedLoad) (db : Database) : Except Fault (Counts × Database) :=
  load l.codec l.times l.path l.file db l.isSealed

/-- Loads seed files one after the other. -/
def loadAll : List SeedLoad → Database → Except Fault Database
  | [], db => .ok db
  | l :: rest, db => (l.run db).bind fun loaded => loadAll rest loaded.2

/-- The entries of a section, of all seed files. -/
def entriesOfAll (loads : List SeedLoad) (part : Part) : List Value :=
  loads.flatMap fun l => l.entries part

/-- The last entry of an account. -/
def lastAccountIn (entries : List Value) (id : String) : Option Value :=
  entries.reverse.find? fun entry => textIn? "id" entry == some id

/-- The last entry of a connection. -/
def lastConnectionIn (entries : List Value) (owner target : String) : Option Value :=
  entries.reverse.find? fun entry =>
    textIn? "owner" entry == some owner && textIn? "target" entry == some target

/-- Whether the last entry of a connection says that it stands as given. -/
def standsIn (entries : List Value) (owner target : String) (state : ConnectionState) : Bool :=
  (entries.reverse.find? fun entry =>
    textIn? "owner" entry == some owner && textIn? "target" entry == some target).any
      fun entry => (stateIn entry).string? == some state.name

/-- The group or the profile that an entry describes. -/
def entityIn (id : String) (entry : Value) : Entity where
  kind := if textIn? "kind" entry = some AccountKind.group.name then .group else .profile
  id
  properties := profileIn entry

/-- What a viewer is to find under an id. -/
def findIn (accounts connections : List Value) (viewer id : String) :
    Except Fault (Option Entity) :=
  match lastAccountIn accounts id with
  | none => .ok none
  | some entry =>
    if isPrivateIn entry && id != viewer && !standsIn connections viewer id .accepted then
      .error (.denial (.unreadable viewer id))
    else .ok (some (entityIn id entry))

theorem describes_joinSeeds {u : Seed} (h : Describes told s) (h' : Describes more u) :
    Describes (fun part => told part ++ more part) (joinSeeds s u) where
  accounts := List.rel_append h.accounts h'.accounts
  memberships := List.rel_append h.memberships h'.memberships
  connections := List.rel_append h.connections h'.connections

theorem ofValue_of_readSeed {codec : Json.Codec} {path : String} {file : Json.File}
    (h : readSeed codec path file = .ok s) :
    ∃ v, file.read codec path = .ok v ∧ Seed.ofValue v = .ok s := by
  unfold readSeed at h
  split at h
  · cases h
  · cases h
  · cases h
  · cases h
  · rename_i v hread
    cases hvalue : Seed.ofValue v with
    | error problems =>
      rw [hvalue] at h
      cases h
    | ok t =>
      rw [hvalue] at h
      cases h
      exact ⟨v, hread, hvalue⟩

theorem describes_of_readSeed {l : SeedLoad} (h : readSeed l.codec l.path l.file = .ok s) :
    Describes l.entries s := by
  obtain ⟨v, hread, hvalue⟩ := ofValue_of_readSeed h
  have hentries : l.entries = entriesOf v := by
    funext part
    simp only [SeedLoad.entries, hread]
  rw [hentries]
  exact describes_of_ofValue hvalue

/-- Loading seed files records their entries behind those before. -/
theorem records_loadAll {loads : List SeedLoad} (hdb : Records db s) (htold : Describes told s)
    (h : loadAll loads db = .ok after) :
    ∃ t, Records after t ∧ Describes (fun part => told part ++ entriesOfAll loads part) t := by
  induction loads generalizing db s told with
  | nil =>
    cases h
    exact ⟨s, hdb, by simpa [entriesOfAll] using htold⟩
  | cons l rest ih =>
    rw [loadAll] at h
    cases hload : l.run db with
    | error fault =>
      rw [hload] at h
      cases h
    | ok loaded =>
      rw [hload] at h
      obtain ⟨counts, next⟩ := loaded
      obtain ⟨t, hread, hnext⟩ := records_load hdb hload
      obtain ⟨u, hrecords, hdescribes⟩ :=
        ih hnext (describes_joinSeeds htold (describes_of_readSeed hread)) h
      exact ⟨u, hrecords, by simpa [entriesOfAll] using hdescribes⟩

/-- The last entry of an account tells what the last one written is. -/
theorem rel_lastAccount (h : Describes told s) (id : String) :
    Option.Rel DescribesAccount (lastAccountIn (told .accounts) id) (lastAccount s id) := by
  apply find?_rel
  · intro entry e he
    rw [he.id]
    simp
  · exact List.rel_reverse h.accounts

/-- The last entry of a connection tells what the last one written is. -/
theorem rel_lastConnection (h : Describes told s) (owner target : String) :
    Option.Rel DescribesConnection (lastConnectionIn (told .connections) owner target)
      (lastConnection s owner target) := by
  apply find?_rel
  · intro entry c hc
    rw [hc.owner, hc.target, Bool.eq_iff_iff]
    simp [endsOf]
  · exact List.rel_reverse h.connections

theorem standsIn_eq (h : Describes told s) (owner target : String) (state : ConnectionState) :
    standsIn (told .connections) owner target state = stands s owner target state := by
  have hlast := rel_lastConnection h owner target
  unfold lastConnectionIn at hlast
  unfold standsIn stands
  generalize (told .connections).reverse.find? _ = found, lastConnection s owner target = last
    at hlast
  cases hlast with
  | none => rfl
  | @some entry c hc =>
    have hname : ∀ a b : ConnectionState, a.name = b.name ↔ a = b := by
      intro a b
      constructor
      · intro hab
        have ha := ConnectionState.ofName?_name a
        rw [hab, ConnectionState.ofName?_name b] at ha
        exact (Option.some.inj ha).symm
      · rintro rfl
        rfl
    rw [Option.any_some, Option.any_some, hc.state, Bool.eq_iff_iff]
    simp [hname]

theorem entityIn_eq {e : AccountEntry} {entry : Value} (h : DescribesAccount entry e) :
    entityIn e.id entry = entityOf e := by
  have hkind : (if textIn? "kind" entry = some AccountKind.group.name then
      Feed.EntityKind.group else .profile) = (entityOf e).kind := by
    unfold entityOf
    by_cases hgroup : e.kind = .group
    · rw [if_pos (h.kind.mpr hgroup), hgroup]
    · have huser : e.kind = .user := by
        cases hk : e.kind with
        | user => rfl
        | group => exact absurd hk hgroup
      rw [if_neg (fun hk => hgroup (h.kind.mp hk)), huser]
  have hprofile : profileIn entry = propertiesOf e := by
    simp only [profileIn, propertiesOf, h.columns, Option.map_map]
    rfl
  unfold entityIn
  rw [hkind, hprofile]
  rfl

/-- What a viewer finds under an id is told by the last entries. -/
theorem find_eq_findIn (hdb : Records db s) (h : Describes told s) (viewer id : String) :
    db.find viewer (some id) = findIn (told .accounts) (told .connections) viewer id := by
  have hlast := rel_lastAccount h id
  rw [find_of_records hdb]
  unfold findIn
  have hid : ∀ e, lastAccount s id = some e → e.id = id := by
    intro e he
    simpa using List.find?_some he
  generalize lastAccountIn (told .accounts) id = found, lastAccount s id = last at hlast hid
  cases hlast with
  | none => rfl
  | @some entry e he =>
    obtain rfl := hid e rfl
    simp only [he.isPrivate, standsIn_eq h, entityIn_eq he]
    have hhidden : (e.isPrivate && e.id != viewer && !stands s viewer e.id .accepted) =
        !mayRead s viewer e := by
      simp only [mayRead, Bool.not_or, Bool.not_not, bne]
    rw [hhidden]
    cases mayRead s viewer e with
    | true => rfl
    | false => rfl

/-- A directory that was loaded from seed files answers as their last entries tell. Under an id it
shows the account of the last entry, unless that is private and neither the viewer's own nor
joined to it by an accepted connection. -/
theorem answers_of_loadAll {loads : List SeedLoad} (h : loadAll loads .fresh = .ok db)
    (viewer : String) :
    (∀ id, db.find viewer (some id) =
      findIn (entriesOfAll loads .accounts) (entriesOfAll loads .connections) viewer id) ∧
    (∀ member, ∃ groups, db.principals member = .ok groups ∧ groups.Pairwise (· < ·) ∧
      ∀ group, group ∈ groups ↔ ∃ entry ∈ entriesOfAll loads .memberships,
        textIn? "group" entry = some group ∧ textIn? "member" entry = some member) ∧
    (∀ group, ∃ members, db.members group = .ok members ∧ members.Pairwise (· < ·) ∧
      ∀ member, member ∈ members ↔ ∃ entry ∈ entriesOfAll loads .memberships,
        textIn? "group" entry = some group ∧ textIn? "member" entry = some member) ∧
    ∀ owner state, ∃ targets, db.connected owner state = .ok targets ∧ targets.Nodup ∧
      ∀ target, target ∈ targets ↔
        standsIn (entriesOfAll loads .connections) owner target state = true := by
  have hnone : Describes (fun _ => []) ⟨[], [], []⟩ := ⟨.nil, .nil, .nil⟩
  obtain ⟨s, hrecords, hdescribes⟩ := records_loadAll records_fresh hnone h
  have htold : Describes (entriesOfAll loads) s := by simpa using hdescribes
  have hmemberships : ∀ group member, ⟨group, member⟩ ∈ s.memberships ↔
      ∃ entry ∈ entriesOfAll loads .memberships,
        textIn? "group" entry = some group ∧ textIn? "member" entry = some member := by
    intro group member
    exact mem_iff_describesMembership htold.memberships ⟨group, member⟩
  refine ⟨?_, ?_, ?_, ?_⟩
  · exact find_eq_findIn hrecords htold viewer
  · intro member
    obtain ⟨groups, hgroups, hsorted, hmem⟩ := principals_of_records hrecords member
    exact ⟨groups, hgroups, hsorted, fun group => (hmem group).trans (hmemberships group member)⟩
  · intro group
    obtain ⟨members, hmembers, hsorted, hmem⟩ := members_of_records hrecords group
    exact ⟨members, hmembers, hsorted,
      fun member => (hmem member).trans (hmemberships group member)⟩
  · intro owner state
    obtain ⟨targets, htargets, hnodup, hmem⟩ := connected_of_records hrecords owner state
    refine ⟨targets, htargets, hnodup, ?_⟩
    intro target
    rw [hmem, ← standsIn_eq htold]

/-- A seed of Dan, whose account is private. -/
def danSeed : Value :=
  .obj [("accounts", .arr [.obj [("id", .str "dan"), ("private", .bool true)]])]

/-- A seed by which Ann has a connection to Dan. -/
def friendSeed : Value :=
  .obj [("connections", .arr [.obj [("owner", .str "ann"), ("target", .str "dan")]])]

/-- Dan is loaded first, then the connection to him. -/
def danLoads : List SeedLoad :=
  [⟨.ample, .constant 1, "dan.json", File.ofValue danSeed, false⟩,
    ⟨.ample, .constant 2, "friend.json", File.ofValue friendSeed, false⟩]

/-- The directory with Dan and the connection to him. -/
def danDatabase : Database where
  accounts := .rows [⟨⟨"dan", .user, ⟨none, none, none, none, none, none⟩, true⟩, 1⟩]
  memberships := .rows []
  connections := .rows [⟨⟨"ann", "dan", .accepted⟩, 2⟩]

theorem read_danSeed : (File.ofValue danSeed).read .ample "dan.json" = .ok danSeed := by
  apply Json.read_ofValue
  refine .obj (by decide) ?_
  simp only [List.forall_mem_singleton]
  refine .arr ?_
  simp only [List.forall_mem_singleton]
  exact .obj (by decide) (by simpa using ⟨.str _ _, .bool _ _⟩)

theorem read_friendSeed :
    (File.ofValue friendSeed).read .ample "friend.json" = .ok friendSeed := by
  apply Json.read_ofValue
  refine .obj (by decide) ?_
  simp only [List.forall_mem_singleton]
  refine .arr ?_
  simp only [List.forall_mem_singleton]
  exact .obj (by decide) (by simpa using ⟨.str _ _, .str _ _⟩)

theorem loadAll_danLoads : loadAll danLoads .fresh = .ok danDatabase := by
  have hdan : Seed.ofValue danSeed =
      .ok ⟨[⟨"dan", .user, ⟨none, none, none, none, none, none⟩, true⟩], [], []⟩ := rfl
  have hfriend : Seed.ofValue friendSeed = .ok ⟨[], [], [⟨"ann", "dan", .accepted⟩]⟩ := rfl
  simp only [danLoads, loadAll, SeedLoad.run, load, readSeed, read_danSeed, read_friendSeed, hdan,
    hfriend]
  rfl

/-- Dan is shown to Ann, who is joined to him, and not to Bob. -/
theorem answers_of_loadAll_danLoads :
    loadAll danLoads .fresh = .ok danDatabase ∧
      danDatabase.find "ann" (some "dan") = .ok (some ⟨.profile, "dan", []⟩) ∧
      danDatabase.find "bob" (some "dan") = .error (.denial (.unreadable "bob" "dan")) := by
  have haccounts : entriesOfAll danLoads .accounts =
      [.obj [("id", .str "dan"), ("private", .bool true)]] := by
    simp only [entriesOfAll, danLoads, List.flatMap_cons, SeedLoad.entries, read_danSeed,
      read_friendSeed]
    rfl
  have hconnections : entriesOfAll danLoads .connections =
      [.obj [("owner", .str "ann"), ("target", .str "dan")]] := by
    simp only [entriesOfAll, danLoads, List.flatMap_cons, SeedLoad.entries, read_danSeed,
      read_friendSeed]
    rfl
  have hann := (answers_of_loadAll loadAll_danLoads "ann").1 "dan"
  have hbob := (answers_of_loadAll loadAll_danLoads "bob").1 "dan"
  rw [haccounts, hconnections] at hann hbob
  exact ⟨loadAll_danLoads, hann.trans rfl, hbob.trans rfl⟩

end PeopleFeed.Directory
