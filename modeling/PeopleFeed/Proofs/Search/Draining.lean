import Mathlib.Data.Nat.Find
import Mathlib.Data.Prod.Lex
import Mathlib.Order.WellFounded
import PeopleFeed.Proofs.Search.Demand

/-! A search that is pulled again and again comes to its end. Every page behind which another is
requested has moved it on by a document at least, so that it sends no more requests than documents
are ever told to be found, and a first one in any case. -/
namespace PeopleFeed.Search

open PeopleFeed.Json (Value Fields)

variable {ρ : Type} {server : Server ρ} {log : ρ → List PageRequest} {e : Endpoint}
  {criteria : Fields} {docs : List Value} {bound next : Nat} {found : Int} {s : Paging × ρ} {r : ρ}

/-- A server after some requests. -/
def Server.after (server : Server ρ) (requests : List PageRequest) (r : ρ) : ρ :=
  requests.foldl (fun r request => (server.send request r).2) r

/-- Whatever a server is asked for and however often, no page of it tells more documents than a
number. The pages may tell different numbers, and have any documents. -/
def Server.TellsAtMost (server : Server ρ) (e : Endpoint) (bound : Nat) (r : ρ) : Prop :=
  ∀ requests request page, (server.send request (server.after requests r)).1.Holds e page →
    page.found ≤ bound

theorem Server.TellsAtMost.send (h : server.TellsAtMost e bound r) (request : PageRequest) :
    server.TellsAtMost e bound (server.send request r).2 :=
  fun requests => h (request :: requests)

/-- Where a search stands that has sent no more requests than it may. With a page at hand it has
sent no more of them than there are places up to the next page. -/
inductive Spends (server : Server ρ) (e : Endpoint) (log : ρ → List PageRequest) (bound : Nat) :
    Paging × ρ → Prop
  | opened {criteria : Fields} {r : ρ} (htells : server.TellsAtMost e bound r)
      (hlog : log r = []) : Spends server e log bound (opening criteria r)
  | serving {criteria : Fields} {left : List Value} {next : Nat} {found : Int} {r : ρ}
      (htells : server.TellsAtMost e bound r) (hplace : (log r).length ≤ next)
      (hsent : (log r).length ≤ max 1 bound) (hfound : found ≤ bound) :
      Spends server e log bound (.serving criteria left next found, r)
  | closed {r : ρ} (hsent : (log r).length ≤ max 1 bound) : Spends server e log bound (.closed, r)

theorem Spends.sent (h : Spends server e log bound s) : (log s.2).length ≤ max 1 bound := by
  cases h with
  | opened htells hlog => simp [opening, hlog]
  | serving htells hplace hsent hfound => exact hsent
  | closed hsent => exact hsent

/-- Pulling the first of some documents leaves the requests as they are. Only where there are
documents the search goes on. -/
theorem spends_pullFirst (htells : server.TellsAtMost e bound r)
    (hplace : docs ≠ [] → (log r).length ≤ next) (hsent : (log r).length ≤ max 1 bound)
    (hfound : found ≤ bound) (criteria : Fields) (notes : List Log.Note) :
    Spends server e log bound ((pullFirst criteria next found notes docs).after, r) := by
  cases docs with
  | nil => exact .closed hsent
  | cons doc left =>
    cases hdoc : pullDocument doc with
    | ok candidate =>
      simp only [pullFirst, hdoc]
      exact .serving htells (hplace (by simp)) hsent hfound
    | error fault =>
      simp only [pullFirst, hdoc]
      exact .closed hsent

theorem pullPage_of_fault {start : Nat} {fault : Fault}
    (h : (pageOf e (server.send (pageRequest e criteria start) r).1).1 = .error fault) :
    ∃ notes, pullPage server e criteria start r =
      (⟨.error fault, notes, .closed⟩, (server.send (pageRequest e criteria start) r).2) := by
  unfold pullPage
  generalize server.send (pageRequest e criteria start) r = sent at h
  obtain ⟨transport, r'⟩ := sent
  dsimp only at h ⊢
  generalize pageOf e transport = noted at h
  obtain ⟨answer, notes⟩ := noted
  obtain rfl : answer = .error fault := h
  exact ⟨notes, rfl⟩

/-- One more request is within the bound if it is the first, or for a place below the bound. -/
theorem spends_pullPage (hrecords : server.Logs log) (htells : server.TellsAtMost e bound r)
    {start : Nat} (hplace : (log r).length ≤ start) (hroom : log r = [] ∨ start < bound)
    (criteria : Fields) :
    Spends server e log bound ((pullPage server e criteria start r).1.after,
      (pullPage server e criteria start r).2) := by
  have hcount := congrArg List.length (hrecords (pageRequest e criteria start) r)
  rw [List.length_append, List.length_singleton] at hcount
  have hsent : (log (server.send (pageRequest e criteria start) r).2).length ≤ max 1 bound := by
    rcases hroom with hfirst | hroom
    · simp [hcount, hfirst]
    · omega
  have hreceived := received_pageOf e (server.send (pageRequest e criteria start) r).1
  cases hpage : (pageOf e (server.send (pageRequest e criteria start) r).1).1 with
  | error fault =>
    obtain ⟨notes, hpull⟩ := pullPage_of_fault hpage
    rw [hpull]
    exact .closed hsent
  | ok page =>
    rw [hpage] at hreceived
    cases hreceived with
    | page hholds =>
      obtain ⟨notes, hpull⟩ := pullPage_of_holds hholds
      rw [hpull]
      apply spends_pullFirst (htells.send _) _ hsent (htells [] _ page hholds)
      -- A page that is not empty makes up for the request of it.
      intro hsome
      have hlength := List.length_pos_iff.mpr hsome
      omega

/-- A search that has no document left asks for the next page just if it is told to be there. -/
theorem pull_serving_nil (server : Server ρ) (e : Endpoint) (criteria : Fields) (next : Nat)
    (found : Int) (r : ρ) :
    server.pull e (.serving criteria [] next found, r) =
      if found ≤ next then ⟨.ok none, [], .closed, r⟩
      else server.pull e (.awaiting criteria next, r) := by
  by_cases hover : found ≤ next <;> simp [Server.pull, Paging.pull, hover]

theorem spends_pull (hrecords : server.Logs log) (h : Spends server e log bound s) :
    Spends server e log bound (server.pull e s).after := by
  cases h with
  | closed hsent => exact .closed hsent
  | opened htells hlog =>
    exact spends_pullPage hrecords htells (by simp [hlog]) (.inl hlog) _
  | @serving criteria left next found r htells hplace hsent hfound =>
    cases left with
    | cons doc left => exact spends_pullFirst htells (fun _ => hplace) hsent hfound criteria []
    | nil =>
      rw [pull_serving_nil]
      by_cases hover : found ≤ next
      · rw [if_pos hover]
        exact .closed hsent
      · rw [if_neg hover]
        exact spends_pullPage hrecords htells hplace (.inr (by omega)) _

theorem spends_afterPulls (hrecords : server.Logs log) (h : Spends server e log bound s) (n : Nat) :
    Spends server e log bound (afterPulls (server.pull e) n s) := by
  induction n with
  | zero => exact h
  | succ n ih =>
    rw [afterPulls_succ]
    exact spends_pull hrecords ih

/-- A pull gives a candidate just if the search goes on behind it. -/
theorem answer_pullFirst_iff (criteria : Fields) (next : Nat) (found : Int)
    (notes : List Log.Note) (docs : List Value) :
    (∃ candidate, (pullFirst criteria next found notes docs).answer = .ok (some candidate)) ↔
      (pullFirst criteria next found notes docs).after ≠ .closed := by
  cases docs with
  | nil => simp [pullFirst]
  | cons doc left => cases hdoc : pullDocument doc <;> simp [pullFirst, hdoc]

theorem answer_pullPage_iff (server : Server ρ) (e : Endpoint) (criteria : Fields) (start : Nat)
    (r : ρ) :
    (∃ candidate, (pullPage server e criteria start r).1.answer = .ok (some candidate)) ↔
      (pullPage server e criteria start r).1.after ≠ .closed := by
  have hreceived := received_pageOf e (server.send (pageRequest e criteria start) r).1
  cases hpage : (pageOf e (server.send (pageRequest e criteria start) r).1).1 with
  | error fault =>
    obtain ⟨notes, hpull⟩ := pullPage_of_fault hpage
    simp [hpull]
  | ok page =>
    rw [hpage] at hreceived
    cases hreceived with
    | page hholds =>
      obtain ⟨notes, hpull⟩ := pullPage_of_holds hholds
      rw [hpull]
      exact answer_pullFirst_iff ..

theorem answer_pull_iff (server : Server ρ) (e : Endpoint) (s : Paging × ρ) :
    (∃ candidate, (server.pull e s).answer = .ok (some candidate)) ↔
      (server.pull e s).after.1 ≠ .closed := by
  obtain ⟨p, r⟩ := s
  cases p with
  | closed => simp [Server.pull, Paging.pull]
  | awaiting criteria start => exact answer_pullPage_iff server e criteria start r
  | serving criteria left next found =>
    cases left with
    | cons doc left => exact answer_pullFirst_iff criteria next found [] (doc :: left)
    | nil =>
      rw [pull_serving_nil]
      by_cases hover : found ≤ next
      · simp [hover]
      · rw [if_neg hover]
        exact answer_pullPage_iff server e criteria next r

/-- Requesting a page sends one request, whatever comes of it. -/
theorem sent_pullPage (server : Server ρ) (e : Endpoint) (criteria : Fields) (start : Nat) (r : ρ) :
    (pullPage server e criteria start r).2 = (server.send (pageRequest e criteria start) r).2 := by
  unfold pullPage
  dsimp only
  split <;> rfl

/-- Where a search goes on, its pull has sent a request or taken one of the documents left. -/
theorem sends_or_takes (hrecords : server.Logs log) (e : Endpoint) (s : Paging × ρ)
    (hopen : (server.pull e s).after.1 ≠ .closed) :
    (log (server.pull e s).after.2).length = (log s.2).length + 1 ∨
      (log (server.pull e s).after.2).length = (log s.2).length ∧
        (server.pull e s).after.1.left.length < s.1.left.length := by
  have hpage (criteria : Fields) (start : Nat) (r : ρ) :
      (log (pullPage server e criteria start r).2).length = (log r).length + 1 := by
    rw [sent_pullPage, hrecords, List.length_append, List.length_singleton]
  obtain ⟨p, r⟩ := s
  cases p with
  | closed => exact absurd rfl hopen
  | awaiting criteria start => exact .inl (hpage criteria start r)
  | serving criteria left next found =>
    cases left with
    | nil =>
      rw [pull_serving_nil] at hopen ⊢
      by_cases hover : found ≤ next
      · rw [if_pos hover] at hopen
        exact absurd rfl hopen
      · rw [if_neg hover]
        exact .inl (hpage criteria next r)
    | cons doc left =>
      have hpull : (server.pull e (.serving criteria (doc :: left) next found, r)).after =
          ((pullFirst criteria next found [] (doc :: left)).after, r) := rfl
      rw [hpull] at hopen ⊢
      cases hdoc : pullDocument doc with
      | ok candidate => simp [pullFirst, hdoc, Paging.left]
      | error fault => simp [pullFirst, hdoc] at hopen

/-- A search that may send only so many requests is over after some pull. -/
theorem exists_closed (hrecords : server.Logs log) (h : Spends server e log bound s) :
    ∃ n, (afterPulls (server.pull e) n s).1 = .closed := by
  by_contra hnot
  push Not at hnot
  -- Each pull uses up a request, or a document of the page at hand.
  let weight (n : Nat) : Nat ×ₗ Nat :=
    toLex (max 1 bound - (log (afterPulls (server.pull e) n s).2).length,
      (afterPulls (server.pull e) n s).1.left.length)
  obtain ⟨n, hn⟩ := WellFounded.not_rel_apply_succ (r := (· < ·)) weight
  apply hn
  have hopen := hnot (n + 1)
  have hsent := (spends_afterPulls hrecords h (n + 1)).sent
  have hpulled : afterPulls (server.pull e) (n + 1) s =
      (server.pull e (afterPulls (server.pull e) n s)).after := afterPulls_succ n s
  rw [hpulled] at hopen hsent
  refine Prod.Lex.toLex_lt_toLex.2 ?_
  rw [hpulled]
  rcases sends_or_takes hrecords e _ hopen with hsends | ⟨hsame, htakes⟩
  · exact .inl (by omega)
  · exact .inr ⟨by rw [hsame], htakes⟩

/-- A search of a server whose pages never tell more documents than a number is drained by some
pull: those before it give candidates, and it comes to the end or upon a fault. However often the
search is pulled, it sends no more requests than that number, or one if the number is zero. -/
theorem drains_of_tellsAtMost (hrecords : server.Logs log) (htells : server.TellsAtMost e bound r)
    (hlog : log r = []) (criteria : Fields) :
    (∃ n, (∀ m < n, ∃ candidate,
        answerAt (server.pull e) m (opening criteria r) = .ok (some candidate)) ∧
      (answerAt (server.pull e) n (opening criteria r) = .ok none ∨
        ∃ fault, answerAt (server.pull e) n (opening criteria r) = .error fault) ∧
      (afterPulls (server.pull e) (n + 1) (opening criteria r)).1 = .closed) ∧
    ∀ n, (log (afterPulls (server.pull e) n (opening criteria r)).2).length ≤ max 1 bound := by
  have hopened : Spends server e log bound (opening criteria r) := .opened htells hlog
  refine ⟨?_, fun n => (spends_afterPulls hrecords hopened n).sent⟩
  have hcloses : ∃ n, (afterPulls (server.pull e) (n + 1) (opening criteria r)).1 = .closed := by
    obtain ⟨n, hn⟩ := exists_closed hrecords hopened
    cases n with
    | zero => cases hn
    | succ n => exact ⟨n, hn⟩
  classical
  have hlast := Nat.find_spec hcloses
  refine ⟨Nat.find hcloses, ?_, ?_, hlast⟩
  · intro m hm
    have hopen := Nat.find_min hcloses hm
    rw [afterPulls_succ] at hopen
    exact (answer_pull_iff server e _).mpr hopen
  · rw [afterPulls_succ] at hlast
    have hnone : ¬ ∃ candidate, answerAt (server.pull e) (Nat.find hcloses) (opening criteria r) =
        .ok (some candidate) := by
      intro hcandidate
      exact (answer_pull_iff server e _).mp hcandidate hlast
    cases hanswer : answerAt (server.pull e) (Nat.find hcloses) (opening criteria r) with
    | error fault => exact .inr ⟨fault, rfl⟩
    | ok given =>
      cases given with
      | none => exact .inl rfl
      | some candidate => exact absurd ⟨candidate, hanswer⟩ hnone

/-! A server that takes back what it has told. -/

/-- What is left of the answers of a server that answers as prepared. -/
theorem ahead_after_preparedServer (requests : List PageRequest) (ahead : List Transport)
    (sent : List PageRequest) :
    (preparedServer.after requests (ahead, sent)).1 = ahead.drop requests.length := by
  induction requests generalizing ahead sent with
  | nil => rfl
  | cons request requests ih =>
    cases ahead with
    | nil => exact (ih [] (sent ++ [request])).trans (by simp)
    | cons t ahead => exact ih ahead (sent ++ [request])

/-- A server that answers as prepared tells what its answers tell. -/
theorem tellsAtMost_preparedServer {ahead : List Transport} {sent : List PageRequest}
    (h : ∀ t ∈ ahead, ∀ page, t.Holds e page → page.found ≤ bound) :
    preparedServer.TellsAtMost e bound (ahead, sent) := by
  intro requests request page hholds
  have hleft := ahead_after_preparedServer requests ahead sent
  generalize preparedServer.after requests (ahead, sent) = state at hholds hleft
  obtain ⟨_ | ⟨t, rest⟩, sent'⟩ := state
  · obtain ⟨response, ⟨status, body, data, hanswered, -⟩, -⟩ := hholds
    cases hanswered
  · have hmem : t ∈ ahead.drop requests.length := by
      rw [← hleft]
      exact List.mem_cons_self
    exact h t (List.mem_of_mem_drop hmem) page hholds

/-- Two pages of one document each. The first tells two documents in all, the second only one. -/
def dwindlingPages : List Page :=
  [⟨[bobDocument], 2⟩, ⟨[bobDocument], 1⟩]

theorem found_le_of_holds_dwindling :
    ∀ t ∈ dwindlingPages.map crowdTransport, ∀ page, t.Holds slowEndpoint page →
      page.found ≤ (2 : Nat) := by
  intro t ht page hholds
  obtain ⟨told, htold, rfl⟩ := List.mem_map.mp ht
  have hbob : ∀ doc ∈ told.documents, Json.Rereadable Text.maxDigits 61 doc := by
    intro doc hdoc
    obtain rfl : doc = bobDocument := by
      revert doc told
      simp [dwindlingPages]
    exact rereadable_bobDocument
  have hfound : told.found = 2 ∨ told.found = 1 := by
    revert told
    simp [dwindlingPages]
  have hdigits : (Nat.toDigits 10 told.found.natAbs).length ≤ Text.maxDigits := by
    rcases hfound with h | h <;> rw [h] <;> decide
  obtain rfl : page = told := hholds.unique (holds_foundValue hbob hdigits)
  omega

/-- Two requests drain it, as many as documents were told at the most. -/
theorem drains_dwindlingPages :
    preparedServer.TellsAtMost slowEndpoint 2 (dwindlingPages.map crowdTransport, []) ∧
      (∃ n, (answerAt (preparedServer.pull slowEndpoint) n
          (opening [] (dwindlingPages.map crowdTransport, [])) = .ok none ∨
        ∃ fault, answerAt (preparedServer.pull slowEndpoint) n
          (opening [] (dwindlingPages.map crowdTransport, [])) = .error fault)) ∧
      ∀ n, (afterPulls (preparedServer.pull slowEndpoint) n
        (opening [] (dwindlingPages.map crowdTransport, []))).2.2.length ≤ 2 := by
  have htells : preparedServer.TellsAtMost slowEndpoint 2 (dwindlingPages.map crowdTransport, []) :=
    tellsAtMost_preparedServer found_le_of_holds_dwindling
  obtain ⟨⟨n, -, hend, -⟩, hsent⟩ :=
    drains_of_tellsAtMost logs_preparedServer htells rfl []
  exact ⟨htells, ⟨n, hend⟩, hsent⟩

end PeopleFeed.Search
