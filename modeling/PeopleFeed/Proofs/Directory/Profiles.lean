import PeopleFeed.Proofs.Directory.Loaded
import PeopleFeed.Proofs.Directory.Privacy
import PeopleFeed.Proofs.Feed.Showing

/-! From seed files to a feed: the profile of a record is told by the last entry of its account, and
nothing of the entries before shows through. -/
namespace PeopleFeed.Directory

open PeopleFeed.Feed (Collaborators Entity Policy Order assemble publicFields publicFieldNames
  isShown)
open PeopleFeed.Json (File Value Fields)
open PeopleFeed.Seed

variable {σ τ : Type} {c : Collaborators σ} {sh : Shuffler τ} {viewer id : String}
  {db : Database} {At : σ → Prop} {s : Seed} {told : Part → List Value} {entry : Value}
  {e : AccountEntry} {names : List String} {fields : Fields}

/-- What an entry has to show in a field: a text that is not empty. -/
def shownIn? (entry : Value) (f : ProfileField) : Option String :=
  (textIn? f.name entry).filter (· ≠ "")

/-- The profile that an entry gives the account of an id. -/
def shownProfile (id : String) (entry : Value) : Fields :=
  ("userid", .str id) :: ProfileField.all.filterMap fun f =>
    (shownIn? entry f).map fun text => (f.name, .str text)

/-- The public fields, one by one. -/
theorem publicFields_eq (h : ("userid" :: names).Nodup) (e : Entity) :
    publicFields names e = ("userid", .str e.id) :: names.filterMap fun name =>
      ((e.properties.get? name).filter isShown).map (name, ·) := by
  -- Every name is new among the fields that are there when it is its turn.
  have hfold : ∀ fields : Fields, (fields.keys ++ names).Nodup →
      names.foldl (fun acc name => (e.properties.get? name).elim acc fun v =>
        if isShown v then acc.insert name v else acc) fields =
      fields ++ names.filterMap fun name =>
        ((e.properties.get? name).filter isShown).map (name, ·) := by
    clear h
    induction names with
    | nil => simp
    | cons name rest ih =>
      intro fields hnodup
      have hskip : (fields.keys ++ rest).Nodup :=
        hnodup.sublist ((List.sublist_cons_self name rest).append_left _)
      cases hget : e.properties.get? name with
      | none => simpa [hget] using ih fields hskip
      | some v =>
        by_cases hv : isShown v = true
        · have hnew : name ∉ fields.keys := fun hmem =>
            (List.nodup_append.mp hnodup).2.2 name hmem name List.mem_cons_self rfl
          have hinsert : fields.insert name v = fields ++ [(name, v)] :=
            Fields.insert_of_notMem v hnew
          have hadded : (Fields.keys (fields ++ [(name, v)]) ++ rest).Nodup := by
            simpa [Fields.keys] using hnodup
          simpa [hget, hv, hinsert] using ih _ hadded
        · simpa [hget, hv] using ih fields hskip
  have hpublic : publicFields names e =
      names.foldl (fun (acc : Fields) name => (e.properties.get? name).elim acc fun v =>
        if isShown v then acc.insert name v else acc) [("userid", .str e.id)] := by
    unfold publicFields
    congr 1
    funext acc name
    cases e.properties.get? name <;> rfl
  rw [hpublic]
  exact hfold [("userid", .str e.id)] (by simpa [Fields.keys] using h)

theorem name_injective : Function.Injective ProfileField.name := by
  intro f g h
  cases f <;> cases g <;> first | rfl | simp [ProfileField.name] at h

/-- A field, among the properties that are made of some fields. -/
theorem get?_filterMap (value : ProfileField → Option String) (f : ProfileField)
    (fs : List ProfileField) :
    Fields.get? f.name (fs.filterMap fun g => (value g).map fun text => (g.name, .str text)) =
      if f ∈ fs then (value f).map .str else none := by
  induction fs with
  | nil => rfl
  | cons g rest ih =>
    by_cases hf : f = g
    · subst hf
      cases hvalue : value f with
      | none => simp [hvalue, ih]
      | some text => simp [hvalue, Fields.get?]
    · have hname : g.name ≠ f.name := fun h => hf (name_injective h).symm
      cases hvalue : value g with
      | none => simp [hvalue, ih, hf]
      | some text => simp [hvalue, Fields.get?, hname, ih, hf]

/-- A field of an account, among its properties. -/
theorem get?_propertiesOf (e : AccountEntry) (f : ProfileField) :
    (propertiesOf e).get? f.name = (e.columns.get f).map .str := by
  have hall : f ∈ ProfileField.all := by cases f <;> decide
  exact (get?_filterMap e.columns.get f ProfileField.all).trans (if_pos hall)

/-- An entry tells in a field what is kept of it. -/
theorem textIn?_of_describes (h : DescribesAccount entry e) (f : ProfileField) :
    textIn? f.name entry = e.columns.get f := by
  have hcolumn := h.columns f
  unfold textIn?
  cases hkept : e.columns.get f with
  | none =>
    rw [hkept] at hcolumn
    cases hget : entry.get? f.name with
    | none => rfl
    | some v =>
      rw [hget] at hcolumn
      cases v with
      | null => rfl
      | _ => cases hcolumn
  | some text =>
    rw [hkept] at hcolumn
    cases hget : entry.get? f.name with
    | none =>
      rw [hget] at hcolumn
      cases hcolumn
    | some v =>
      rw [hget] at hcolumn
      cases v with
      | str kept =>
        cases hcolumn
        rfl
      | _ => cases hcolumn

/-- What is made public of an account is what its entry has to show. -/
theorem publicFields_entityOf (h : DescribesAccount entry e) :
    publicFields publicFieldNames (entityOf e) = shownProfile e.id entry := by
  rw [publicFields_eq (by decide)]
  simp only [shownProfile, publicFieldNames, List.filterMap_map, shownIn?, textIn?_of_describes h]
  congr 1
  apply List.filterMap_congr
  intro f _
  have hget : (entityOf e).properties.get? f.name = (e.columns.get f).map .str :=
    get?_propertiesOf e f
  simp only [Function.comp_apply, hget]
  cases e.columns.get f with
  | none => rfl
  | some text =>
    by_cases htext : text = "" <;> simp [Option.filter, isShown, htext]

/-- Whoever is found in a directory is what the last entry describes. -/
theorem exists_entry_of_find (hdb : Records db s) (htold : Describes told s) {found : Entity}
    (h : db.find viewer (some id) = .ok (some found)) :
    ∃ entry, lastAccountIn (told .accounts) id = some entry ∧
      publicFields publicFieldNames found = shownProfile id entry := by
  rw [find_of_records hdb] at h
  have hlast := rel_lastAccount htold id
  have hid : ∀ e, lastAccount s id = some e → e.id = id := by
    intro e he
    simpa using List.find?_some he
  generalize lastAccountIn (told .accounts) id = entry?, lastAccount s id = last at h hlast hid
  cases hlast with
  | none => cases h
  | @some entry e he =>
    obtain rfl := hid e rfl
    refine ⟨entry, rfl, ?_⟩
    dsimp only at h
    split at h
    · cases h
      exact publicFields_entityOf he
    · cases h

/-- The profile of a record is just what the last entry of its account has to show, if the feed is
made out of a directory that was loaded from seed files. -/
theorem profile_of_loadAll {loads : List SeedLoad} {p : Policy} {o : Order} {fuel : Nat} {env : σ}
    {shuffler : τ} {result : Feed.Result} (hload : loadAll loads .fresh = .ok db)
    (hc : Consults c viewer db At) (he : At env)
    (hr : (assemble c sh p publicFieldNames fuel o env shuffler).result = .ok result) :
    ∀ r ∈ result.records, ∃ entry,
      lastAccountIn (entriesOfAll loads .accounts) r.target = some entry ∧
        r.profile = shownProfile r.target entry := by
  have hnone : Describes (fun _ => []) ⟨[], [], []⟩ := ⟨.nil, .nil, .nil⟩
  obtain ⟨s, hrecords, hdescribes⟩ := records_loadAll records_fresh hnone hload
  have htold : Describes (entriesOfAll loads) s := by simpa using hdescribes
  intro r hmem
  obtain ⟨found, hfound, -, hprofile⟩ := Feed.exists_shown_of_ok
    (Q := fun id found => db.find viewer (some id) = .ok (some found)) hc.query hc.respond
    (fun id env _ hat hans => (hc.answer (.find (some id)) env (by simp) hat).symm.trans hans)
    he hr r hmem
  obtain ⟨entry, hentry, hshown⟩ := exists_entry_of_find hrecords htold hfound
  exact ⟨entry, hentry, hprofile.trans hshown⟩

/-- A seed of Ann and Bob. -/
def bobSeed : Value :=
  .obj [("accounts", .arr [.obj [("id", .str "ann")], .obj [("id", .str "bob"),
    ("firstName", .str "Bob"), ("email", .str "bob@example.org")]])]

/-- Another one of Bob, which leaves his address out, and in which his department is empty. -/
def robSeed : Value :=
  .obj [("accounts", .arr [.obj [("id", .str "bob"), ("firstName", .str "Rob"),
    ("picture", .str "rob.png"), ("department", .str "")]])]

def bobLoads : List SeedLoad :=
  [⟨.ample, .constant 1, "bob.json", File.ofValue bobSeed, false⟩,
    ⟨.ample, .constant 2, "rob.json", File.ofValue robSeed, false⟩]

/-- The directory behind both seeds. -/
def bobDatabase : Database where
  accounts := .rows
    [⟨⟨"ann", .user, ⟨none, none, none, none, none, none⟩, false⟩, 1⟩,
      ⟨⟨"bob", .user, ⟨some "Rob", none, none, none, some "rob.png", some ""⟩, false⟩, 1⟩]
  memberships := .rows []
  connections := .rows []

theorem read_bobSeed : (File.ofValue bobSeed).read .ample "bob.json" = .ok bobSeed := by
  apply Json.read_ofValue
  refine .obj (by decide) ?_
  simp only [List.forall_mem_singleton]
  refine .arr ?_
  rw [List.forall_mem_cons, List.forall_mem_singleton]
  exact ⟨.obj (by decide) (by simpa using .str _ _),
    .obj (by decide) (by simpa using ⟨.str _ _, .str _ _, .str _ _⟩)⟩

theorem read_robSeed : (File.ofValue robSeed).read .ample "rob.json" = .ok robSeed := by
  apply Json.read_ofValue
  refine .obj (by decide) ?_
  simp only [List.forall_mem_singleton]
  refine .arr ?_
  simp only [List.forall_mem_singleton]
  exact .obj (by decide) (by simpa using ⟨.str _ _, .str _ _, .str _ _, .str _ _⟩)

theorem loadAll_bobLoads : loadAll bobLoads .fresh = .ok bobDatabase := by
  have hbob : Seed.ofValue bobSeed =
      .ok ⟨[⟨"ann", .user, ⟨none, none, none, none, none, none⟩, false⟩, ⟨"bob", .user,
        ⟨some "Bob", none, none, some "bob@example.org", none, none⟩, false⟩], [], []⟩ := rfl
  have hrob : Seed.ofValue robSeed = .ok ⟨[⟨"bob", .user,
      ⟨some "Rob", none, none, none, some "rob.png", some ""⟩, false⟩], [], []⟩ := rfl
  simp only [bobLoads, loadAll, SeedLoad.run, load, readSeed, read_bobSeed, read_robSeed, hbob,
    hrob]
  rfl

/-- What becomes of Ann's order where nobody but Bob is. -/
def bobOutcome : Feed.Outcome Backend Unit :=
  assemble (collaborators "ann") .keep .standard publicFieldNames 60 ⟨"ann", [], none⟩
    (consultation bobDatabase ["bob"]) ()

theorem result_bobOutcome : bobOutcome.result = .ok
    { requester := "ann"
      quota := .number 25
      records := [⟨"bob", [("userid", .str "bob"), ("firstName", .str "Rob"),
        ("picture", .str "rob.png")]⟩]
      states := [.consumingPrimary, .consumingFallback, .done]
      denied := none
      shortfall := true } := by
  cbv

/-- Bob is shown as the second seed has him, without the address from the first. -/
theorem profile_of_loadAll_bobLoads :
    loadAll bobLoads .fresh = .ok bobDatabase ∧
      ∃ entry, lastAccountIn (entriesOfAll bobLoads .accounts) "bob" = some entry ∧
        shownProfile "bob" entry = [("userid", .str "bob"), ("firstName", .str "Rob"),
          ("picture", .str "rob.png")] := by
  obtain ⟨entry, hentry, hprofile⟩ := profile_of_loadAll loadAll_bobLoads
    (consults_collaborators "ann" bobDatabase) (isOn_consultation _ ["bob"]) result_bobOutcome
    _ List.mem_cons_self
  exact ⟨loadAll_bobLoads, entry, hentry, hprofile.symm⟩

end PeopleFeed.Directory
