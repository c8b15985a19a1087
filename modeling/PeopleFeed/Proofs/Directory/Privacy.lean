import PeopleFeed.Proofs.Directory.Visibility
import PeopleFeed.Proofs.Feed.Safety

/-! A feed that its requester asks for shows no private account, and what a private profile holds
has no influence on it. The directory shows private accounts to the requester and to those who are
connected to them, and just these are not to be emitted. -/
namespace PeopleFeed.Directory

open PeopleFeed.Feed (Agree Beside Abreast Call Collaborators Companions Entity Ledger Order Policy
  Request Sound Stage State Transition assemble run)

variable {σ σ' τ : Type} {c : Collaborators σ} {c' : Collaborators σ'} {sh : Shuffler τ}
  {rq : Request} {s t : State σ τ} {db db' : Database} {viewer id : String}
  {At : σ → Prop} {At' : σ' → Prop} {R : σ → σ' → Prop}

namespace Database

/-- What a database answers to a viewer; it has no stream. -/
def answer (db : Database) (viewer : String) : (call : Call) → Except Fault call.Answer
  | .connected requester => db.connected requester .accepted
  | .pull => .ok none
  | .find id => db.find viewer id
  | .principals profile => (db.principals profile).map (·.map some)
  | .members group => (db.members group).map (·.map some)

theorem SamePublic.answer (h : db.SamePublic db') (viewer : String) (call : Call) :
    Agree call.Alike (db.answer viewer call) (db'.answer viewer call) := by
  cases call with
  | find id => exact h.find_alike viewer id
  | connected requester =>
    refine Feed.agree_of_eq _ (Call.Alike.refl _) ?_
    simp only [Database.answer, connected, h.connections]
  | pull => exact .ok rfl
  | principals profile =>
    refine Feed.agree_of_eq _ (Call.Alike.refl _) ?_
    simp only [Database.answer, Database.principals, h.memberships]
  | members group =>
    refine Feed.agree_of_eq _ (Call.Alike.refl _) ?_
    simp only [Database.answer, Database.members, h.memberships]

/-- Whether an id stands for a person's account that is not private. -/
def IsOpen (db : Database) (id : String) : Prop :=
  ∃ row, db.account? id = some row ∧ row.entry.kind ≠ .group ∧ row.entry.isPrivate = false

end Database

/-- Collaborators that ask a database on behalf of a viewer for everything but the stream. `At`
tells that they are connected to it. -/
structure Consults (c : Collaborators σ) (viewer : String) (db : Database) (At : σ → Prop) :
    Prop where
  query : ∀ criteria env, At env → At (c.query criteria env)
  respond : ∀ call env, At env → At (c.respond call env).env
  answer : ∀ call env, call ≠ .pull → At env →
    (c.respond call env).answer = db.answer viewer call

/-- There is a connection to a database. -/
def Backend.IsOn (db : Database) (b : Backend) : Prop :=
  b.database = .ok db

theorem consults_collaborators (viewer : String) (db : Database) :
    Consults (collaborators viewer) viewer db (Backend.IsOn db) where
  query criteria b hb := hb
  respond call b hb := by cases call <;> exact hb
  answer call b hcall hb := by
    have hdatabase : b.database = .ok db := hb
    cases call with
    | pull => exact absurd rfl hcall
    | _ =>
      simp [collaborators, Backend.ask, Database.answer, hdatabase, Except.mapError, Except.bind]

theorem companions_collaborators (viewer viewer' : String) :
    Companions (collaborators viewer) (collaborators viewer') fun b b' => b.search = b'.search where
  query criteria b b' h := by simp [collaborators, h]
  respond call b b' h := by cases call <;> simp [collaborators, h]
  pull b b' h := by simp [collaborators, h]

/-- At every point of a run it is known whom the requester is connected to before anybody is looked
up, and only open accounts have been emitted. -/
structure Discreet (db : Database) (At : σ → Prop) (rq : Request) (s : State σ τ) : Prop where
  sound : Sound rq s
  env : At s.env
  told : s.stage = .connecting ∨ s.stage.isHalted = true ∨
    db.connected rq.requester .accepted = .ok s.ledger.connected
  shown : ∀ r ∈ s.records, db.IsOpen r.target

theorem discreet_initial {env : σ} (he : At env) (shuffler : τ) :
    Discreet db At rq (.initial env shuffler rq.requester) where
  sound := Feed.sound_initial env shuffler
  env := he
  told := .inl rfl
  shown := by simp [State.initial]

/-- Whoever is looked up as a candidate is a stranger to the requester. -/
theorem Discreet.stranger (h : Discreet db At rq s) {origin : Feed.Origin}
    (hst : s.stage = .looking origin id) :
    id ≠ rq.requester ∧ ∃ ids, db.connected rq.requester .accepted = .ok ids ∧ id ∉ ids := by
  obtain ⟨hself, hid, -⟩ := Ledger.isEligible_iff.1 (h.sound.eligible origin id hst)
  refine ⟨h.sound.requester ▸ hself, s.ledger.connected, ?_, hid⟩
  rcases h.told with ht | ht | ht
  · simp [hst] at ht
  · simp [hst, Stage.isHalted] at ht
  · exact ht

theorem told_transition (hc : Consults c rq.requester db At) (h : Transition c sh rq s t)
    (hs : Discreet db At rq s) : t.stage = .connecting ∨ t.stage.isHalted = true ∨
      db.connected rq.requester .accepted = .ok t.ledger.connected := by
  by_cases hst : s.stage = .connecting
  · right
    cases h with
    | connected _ ha => exact .inr ((hc.answer _ _ (by simp) hs.env).symm.trans ha)
    | faulted => exact .inl rfl
    | passedOver ho | chosen ho => cases ho <;> simp_all
    | _ => simp_all [State.goto, Stage.isHalted]
  · obtain ⟨-, hconnected⟩ := Feed.connected_transition h hst
    rcases hs.told with ht | ht | ht
    · exact absurd ht hst
    · rw [Feed.eq_of_halted h ht]
      exact .inr (.inl ht)
    · exact .inr (.inr (hconnected ▸ ht))

theorem shown_transition (hc : Consults c rq.requester db At) (h : Transition c sh rq s t)
    (hs : Discreet db At rq s) : ∀ r ∈ t.records, db.IsOpen r.target := by
  cases h with
  | emitted hst ha hk =>
    intro r hr
    rcases List.mem_append.1 hr with hr | hr
    · exact hs.shown r hr
    · obtain rfl := List.mem_singleton.1 hr
      obtain ⟨hself, ids, hids, hid⟩ := hs.stranger hst
      rw [hc.answer _ _ (by simp) hs.env] at ha
      obtain ⟨row, hrow, hopen, rfl⟩ := Database.account?_of_stranger hids hself hid ha
      refine ⟨row, hrow, ?_, hopen⟩
      intro hgroup
      simp [entityOf, hgroup] at hk
  | refused ho | passedOver ho | chosen ho =>
    intro r hr
    exact hs.shown r (ho.records ▸ hr)
  | listed =>
    unfold State.startGroups
    split <;> exact hs.shown
  | _ => exact hs.shown

theorem discreet_run (hc : Consults c rq.requester db At) (sh : Shuffler τ) {env : σ}
    (he : At env) (shuffler : τ) (n : Nat) :
    Discreet db At rq (run c sh rq n (.initial env shuffler rq.requester)) :=
  Feed.run_induction (fun _ _ h hs => ⟨Feed.sound_transition h hs.sound,
    Feed.env_transition hc.query hc.respond h hs.env,
    told_transition hc h hs, shown_transition hc h hs⟩) (discreet_initial he shuffler) n

/-- The row of an account that shows a first name. -/
def namedRow (id : String) (kind : Seed.AccountKind) (isPrivate : Bool) (name : String) :
    AccountRow :=
  ⟨⟨id, kind, ⟨some name, none, none, none, none, none⟩, isPrivate⟩, 0⟩

/-- A village: Ann, Cat and Dan are private. Ann and Cat are friends, Dan has not answered Ann yet,
and all but Dan sing in the choir with Bob and Eve. -/
def village (ann cat : String) : Database where
  accounts := .rows
    [namedRow "ann" .user true ann, namedRow "bob" .user false "Bob",
      namedRow "cat" .user true cat, namedRow "choir" .group false "Choir",
      namedRow "dan" .user true "Dan", namedRow "eve" .user false "Eve"]
  memberships := .rows (["ann", "bob", "cat", "eve"].map fun id => ⟨"choir", id⟩)
  connections := .rows
    [⟨⟨"ann", "cat", .accepted⟩, 0⟩, ⟨⟨"ann", "dan", .pending⟩, 0⟩,
      ⟨⟨"dan", "ann", .accepted⟩, 0⟩]

/-- A search that finds these people. -/
def villageSearch (ids : List String) : Search.Source :=
  .ofScript ⟨ids.map fun id => .ok ⟨some "authorizable", id, []⟩, false, none⟩

def consultation (db : Database) (ids : List String) : Backend :=
  ⟨.ok db, villageSearch ids⟩

/-- What becomes of Ann's order in the village. -/
def villageOutcome (ann cat : String) (ids : List String) : Feed.Outcome Backend Unit :=
  assemble (collaborators "ann") .keep .standard Feed.publicFieldNames 60 ⟨"ann", [], none⟩
    (consultation (village ann cat) ids) ()

/-- What Ann sees of somebody in the village. -/
def villageRecord (id name : String) : Feed.Record :=
  ⟨id, [("userid", .str id), ("firstName", .str name)]⟩

theorem villageOutcome_choir :
    (villageOutcome "Ann" "Cat" ["cat", "bob"]).result = .ok
      { requester := "ann"
        quota := .number 25
        records := [villageRecord "bob" "Bob", villageRecord "eve" "Eve"]
        states := [.consumingPrimary, .consumingFallback, .done]
        denied := none
        shortfall := true } := by
  cbv

theorem villageOutcome_dan :
    (villageOutcome "Ann" "Cat" ["cat", "bob", "dan"]).result = .ok
      { requester := "ann"
        quota := .number 25
        records := [villageRecord "bob" "Bob"]
        states := [.consumingPrimary, .done]
        denied := some (.unreadable "ann" "dan")
        shortfall := true } := by
  cbv

theorem isOn_consultation (db : Database) (ids : List String) : (consultation db ids).IsOn db :=
  rfl

theorem samePublic_village (ann cat ann' cat' : String) :
    (village ann cat).SamePublic (village ann' cat') where
  accounts := by
    refine .rows ?_
    simp only [List.forall₂_cons, List.forall₂_nil_left_iff, and_true]
    refine ⟨?_, ?_, ?_, ?_, ?_, ?_⟩ <;> constructor <;> simp [namedRow]
  memberships := rfl
  connections := rfl

section

variable {p : Policy} {o : Order} {env : σ} {env' : σ'} {r : Feed.Result}

/-- A feed of a database that the requester looks into shows nobody whose account is private. -/
theorem open_of_mem_targets (hc : Consults c o.requester db At) (he : At env) (sh : Shuffler τ)
    (fieldNames : List String) (fuel : Nat) (shuffler : τ)
    (hr : (assemble c sh p fieldNames fuel o env shuffler).result = .ok r) :
    ∀ id ∈ r.targets, ∃ row, db.account? id = some row ∧ row.entry.kind ≠ .group ∧
      row.entry.isPrivate = false := by
  obtain ⟨quota, hcheck⟩ := Feed.exists_check_of_ok hr
  obtain ⟨denied, -, rfl⟩ := (Feed.assemble_eq_ok_iff hcheck).1 hr
  have hrun : Discreet db At (o.request quota fieldNames)
      (o.run c sh fieldNames quota fuel env shuffler) := discreet_run hc sh he shuffler fuel
  intro id hid
  obtain ⟨record, hrecord, rfl⟩ := List.mem_map.1 hid
  exact hrun.shown record hrecord

/-- Ann finds Cat, who is private and a friend of hers, and Bob. In the choir there is Eve
besides. -/
theorem open_of_mem_targets_village :
    (consultation (village "Ann" "Cat") ["cat", "bob"]).IsOn (village "Ann" "Cat") ∧
      ∃ r, (villageOutcome "Ann" "Cat" ["cat", "bob"]).result = .ok r ∧
        r.targets = ["bob", "eve"] ∧
        ∀ id ∈ r.targets, ∃ row, (village "Ann" "Cat").account? id = some row ∧
          row.entry.kind ≠ .group ∧ row.entry.isPrivate = false := by
  have hopen := open_of_mem_targets (o := ⟨"ann", [], none⟩)
    (consults_collaborators "ann" (village "Ann" "Cat")) (isOn_consultation _ ["cat", "bob"])
    .keep Feed.publicFieldNames 60 () villageOutcome_choir
  exact ⟨isOn_consultation .., _, villageOutcome_choir, rfl, hopen⟩

/-- Side by side, runs on two databases that differ in private profiles only. -/
theorem abreast_run (hdb : db.SamePublic db') (hc : Consults c rq.requester db At)
    (hc' : Consults c' rq.requester db' At') (hsearch : Companions c c' R) (he : At env)
    (he' : At' env') (hR : R env env') (sh : Shuffler τ) (shuffler : τ) (n : Nat) :
    Abreast (fun env env' => R env env' ∧ At env ∧ At' env')
      (run c sh rq n (.initial env shuffler rq.requester))
      (run c' sh rq n (.initial env' shuffler rq.requester)) := by
  have hcompanions : Companions c c' fun env env' => R env env' ∧ At env ∧ At' env' :=
    { query := fun criteria env env' h =>
        ⟨hsearch.query _ _ _ h.1, hc.query _ _ h.2.1, hc'.query _ _ h.2.2⟩
      respond := fun call env env' h =>
        ⟨hsearch.respond _ _ _ h.1, hc.respond _ _ h.2.1, hc'.respond _ _ h.2.2⟩
      pull := fun env env' h => hsearch.pull _ _ h.1 }
  induction n with
  | zero => exact ⟨Feed.beside_initial ⟨hR, he, he'⟩ .., rfl⟩
  | succ n ih =>
    rw [Feed.run_succ_last, Feed.run_succ_last]
    obtain ⟨hR, he, he'⟩ := ih.env
    refine Feed.abreast_step sh hcompanions ih (fun call _ => ?_) fun origin id hst => ?_
    · by_cases hcall : call = .pull
      · subst hcall
        exact Feed.agree_of_eq _ (Call.Alike.refl _) (hsearch.pull _ _ hR)
      · rw [hc.answer _ _ hcall he, hc'.answer _ _ hcall he']
        exact hdb.answer ..
    · have hrun := discreet_run hc sh ‹At env› shuffler n
      obtain ⟨hself, ids, hids, hid⟩ := hrun.stranger hst
      rw [hc.answer _ _ (by simp) he, hc'.answer _ _ (by simp) he']
      exact hdb.find_stranger hids hself hid

/-- What the profiles of private accounts hold makes no difference to a feed that the requester
asks for: it is the same feed, or the same error. -/
theorem result_eq_of_samePublic (hdb : db.SamePublic db') (hc : Consults c o.requester db At)
    (hc' : Consults c' o.requester db' At') (hsearch : Companions c c' R) (he : At env)
    (he' : At' env') (hR : R env env') (sh : Shuffler τ) (p : Policy) (fieldNames : List String)
    (fuel : Nat) (shuffler : τ) :
    (assemble c sh p fieldNames fuel o env shuffler).result =
      (assemble c' sh p fieldNames fuel o env' shuffler).result := by
  refine Feed.result_assemble_congr fun quota _ => ?_
  have hrun : Abreast (fun env env' => R env env' ∧ At env ∧ At' env')
      (o.run c sh fieldNames quota fuel env shuffler)
      (o.run c' sh fieldNames quota fuel env' shuffler) :=
    abreast_run hdb hc hc' hsearch he he' hR sh shuffler fuel
  exact hrun.conclude p quota

/-- Ann finds Dan as well, who is private and no friend of hers. She is told so, however Cat and she
herself are called. -/
theorem result_eq_of_samePublic_village :
    (village "Ann" "Cat").SamePublic (village "Anna" "Kate") ∧
      (consultation (village "Ann" "Cat") ["cat", "bob", "dan"]).search =
        (consultation (village "Anna" "Kate") ["cat", "bob", "dan"]).search ∧
      ∃ r, (villageOutcome "Anna" "Kate" ["cat", "bob", "dan"]).result = .ok r ∧
        (villageOutcome "Ann" "Cat" ["cat", "bob", "dan"]).result = .ok r ∧
        r.targets = ["bob"] ∧ r.denied = some (.unreadable "ann" "dan") := by
  have hsame := samePublic_village "Ann" "Cat" "Anna" "Kate"
  have hresult : (villageOutcome "Ann" "Cat" ["cat", "bob", "dan"]).result =
      (villageOutcome "Anna" "Kate" ["cat", "bob", "dan"]).result :=
    result_eq_of_samePublic (o := ⟨"ann", [], none⟩) hsame (consults_collaborators "ann" _)
      (consults_collaborators "ann" _) (companions_collaborators "ann" "ann")
      (isOn_consultation _ ["cat", "bob", "dan"]) (isOn_consultation _ ["cat", "bob", "dan"]) rfl
      .keep .standard Feed.publicFieldNames 60 ()
  exact ⟨hsame, rfl, _, hresult.symm.trans villageOutcome_dan, villageOutcome_dan, rfl, rfl⟩

end

end PeopleFeed.Directory
