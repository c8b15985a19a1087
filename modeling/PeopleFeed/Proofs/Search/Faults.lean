import PeopleFeed.Proofs.Json.Reading
import PeopleFeed.Proofs.Search.Pulling
import PeopleFeed.Proofs.Search.Response

/-! What a search of a server can fail with. A pull that sends a request fails as the response
tells; one that sends none can only come upon a malformed document of a page held before. -/
namespace PeopleFeed.Search

open PeopleFeed.Json (Value Fields)

variable {ρ : Type} {server : Server ρ} {e : Endpoint} {s : Paging × ρ} {t : Transport}
  {page : Page} {doc : Value} {n : Nat}

/-- The documents of the last page that are not pulled yet. -/
def Paging.left : Paging → List Value
  | .serving _ left _ _ => left
  | _ => []

/-- The request that the next pull sends, if it sends one. -/
def Paging.request? (e : Endpoint) : Paging → Option PageRequest
  | .awaiting criteria start => some (pageRequest e criteria start)
  | .serving criteria [] next found =>
    if found ≤ next then none else some (pageRequest e criteria next)
  | _ => none

/-- What the next pull receives, if it sends a request. -/
def Server.received? (server : Server ρ) (e : Endpoint) (s : Paging × ρ) : Option Transport :=
  (s.1.request? e).map fun request => (server.send request s.2).1

/-- What the pull of a number receives, if it sends a request. -/
def Server.receivedAt (server : Server ρ) (e : Endpoint) (n : Nat) (s : Paging × ρ) :
    Option Transport :=
  server.received? e (afterPulls (server.pull e) n s)

/-- A fault tells that a document is malformed. -/
def TellsMalformed (doc : Value) (fault : Fault) : Prop :=
  ∃ problems, candidateOfDocument doc = .error problems ∧
    fault = .breach (.malformedDocument problems)

theorem tellsMalformed_of_pullDocument {fault : Fault} (h : pullDocument doc = .error fault) :
    TellsMalformed doc fault := by
  unfold pullDocument at h
  cases hdoc : candidateOfDocument doc with
  | ok candidate =>
    rw [hdoc] at h
    cases h
  | error problems =>
    rw [hdoc] at h
    cases h
    exact ⟨problems, hdoc, rfl⟩

/-- Pulling one of the documents at hand fails only for a malformed one, and leaves no others than
those behind it. -/
theorem pullFirst_malformed (criteria : Fields) (next : Nat) (found : Int) (notes : List Log.Note)
    (docs : List Value) :
    (∀ fault, (pullFirst criteria next found notes docs).answer = .error fault →
      ∃ doc ∈ docs, TellsMalformed doc fault) ∧
    (pullFirst criteria next found notes docs).after.left ⊆ docs := by
  cases docs with
  | nil => simp [pullFirst, Paging.left]
  | cons doc left =>
    cases hdoc : pullDocument doc with
    | ok candidate => simp [pullFirst, hdoc, Paging.left]
    | error fault =>
      simp only [pullFirst, hdoc, Paging.left]
      refine ⟨?_, List.nil_subset _⟩
      rintro _ ⟨⟩
      exact ⟨doc, List.mem_cons_self, tellsMalformed_of_pullDocument hdoc⟩

/-- All that a pull can come to, by what it receives: its answer, and the documents left. -/
inductive ComesTo (e : Endpoint) (left : List Value) :
    Option Transport → Except Fault (Option Candidate) → List Value → Prop
  | unasked {answer : Except Fault (Option Candidate)} {after : List Value}
      (hfault : ∀ fault, answer = .error fault → ∃ doc ∈ left, TellsMalformed doc fault)
      (hafter : after ⊆ left) : ComesTo e left none answer after
  | held {t : Transport} {page : Page} {answer : Except Fault (Option Candidate)}
      {after : List Value} (h : t.Holds e page)
      (hfault : ∀ fault, answer = .error fault → ∃ doc ∈ page.documents, TellsMalformed doc fault)
      (hafter : after ⊆ page.documents) : ComesTo e left (some t) answer after
  | failed {t : Transport} {fault : Fault} (h : (pageOf e t).1 = .error fault) :
      ComesTo e left (some t) (.error fault) []

theorem comesTo_pullPage (server : Server ρ) (e : Endpoint) (criteria : Fields) (start : Nat)
    (r : ρ) (left : List Value) :
    ComesTo e left (some (server.send (pageRequest e criteria start) r).1)
      (pullPage server e criteria start r).1.answer
      (pullPage server e criteria start r).1.after.left := by
  have hreceived := received_pageOf e (server.send (pageRequest e criteria start) r).1
  unfold pullPage
  generalize server.send (pageRequest e criteria start) r = sent at hreceived ⊢
  obtain ⟨t, r'⟩ := sent
  dsimp only at hreceived ⊢
  cases hpage : pageOf e t with
  | mk answer notes =>
    rw [hpage] at hreceived
    cases answer with
    | error fault => exact .failed (by rw [hpage])
    | ok page =>
      obtain ⟨hfault, hafter⟩ := pullFirst_malformed criteria (start + page.documents.length)
        page.found notes page.documents
      cases hreceived with
      | page hholds => exact .held hholds hfault hafter

theorem comesTo_pull (server : Server ρ) (e : Endpoint) (s : Paging × ρ) :
    ComesTo e s.1.left (server.received? e s) (server.pull e s).answer
      (server.pull e s).after.1.left := by
  obtain ⟨p, r⟩ := s
  cases p with
  | closed => exact .unasked (by rintro _ ⟨⟩) (List.Subset.refl _)
  | awaiting criteria start => exact comesTo_pullPage server e criteria start r _
  | serving criteria left next found =>
    cases left with
    | cons doc left =>
      obtain ⟨hfault, hafter⟩ := pullFirst_malformed criteria next found [] (doc :: left)
      exact .unasked hfault hafter
    | nil =>
      by_cases hover : found ≤ next
      · have hreceived : server.received? e (.serving criteria [] next found, r) = none := by
          simp [Server.received?, Paging.request?, hover]
        have hpull : server.pull e (.serving criteria [] next found, r) =
            ⟨.ok none, [], .closed, r⟩ := by
          simp [Server.pull, Paging.pull, hover]
        rw [hreceived, hpull]
        exact .unasked (by rintro _ ⟨⟩) (List.Subset.refl _)
      · have hreceived : server.received? e (.serving criteria [] next found, r) =
            some (server.send (pageRequest e criteria next) r).1 := by
          simp [Server.received?, Paging.request?, hover]
        have hpull : server.pull e (.serving criteria [] next found, r) =
            server.pull e (.awaiting criteria next, r) := by
          simp [Server.pull, Paging.pull, hover]
        rw [hreceived, hpull]
        exact comesTo_pullPage server e criteria next r _

/-- Any fault but that of a malformed document comes from what the pull receives. -/
theorem answer_pull_eq_error_iff {fault : Fault} (hfault : ∀ doc, ¬ TellsMalformed doc fault) :
    (server.pull e s).answer = .error fault ↔
      ∃ t, server.received? e s = some t ∧ (pageOf e t).1 = .error fault := by
  have hcomes := comesTo_pull server e s
  generalize (server.pull e s).answer = answer, (server.pull e s).after.1.left = after,
    server.received? e s = received at hcomes
  cases hcomes with
  | unasked hmalformed =>
    constructor
    · intro h
      obtain ⟨doc, -, hdoc⟩ := hmalformed fault h
      exact absurd hdoc (hfault doc)
    · rintro ⟨_, ⟨⟩, -⟩
  | @held t page _ _ hholds hmalformed =>
    constructor
    · intro h
      obtain ⟨doc, -, hdoc⟩ := hmalformed fault h
      exact absurd hdoc (hfault doc)
    · rintro ⟨_, ⟨⟩, h⟩
      rw [fst_pageOf_eq_ok hholds] at h
      cases h
  | @failed t fault' h =>
    constructor
    · rintro ⟨⟩
      exact ⟨t, rfl, h⟩
    · rintro ⟨_, ⟨⟩, h'⟩
      rw [h] at h'
      cases h'
      rfl

/-- A pull that breaks the contract comes upon a malformed document, of those left or of the page
that it receives. -/
theorem breach_of_pull {b : Breach} (h : (server.pull e s).answer = .error (.breach b)) :
    ∃ doc, TellsMalformed doc (.breach b) ∧
      (doc ∈ s.1.left ∨ ∃ t page, server.received? e s = some t ∧ t.Holds e page ∧
        doc ∈ page.documents) := by
  have hcomes := comesTo_pull server e s
  generalize (server.pull e s).answer = answer, (server.pull e s).after.1.left = after,
    hreceived : server.received? e s = received at h hcomes
  cases hcomes with
  | unasked hfault =>
    obtain ⟨doc, hdoc, htells⟩ := hfault _ h
    exact ⟨doc, htells, .inl hdoc⟩
  | held hholds hfault =>
    obtain ⟨doc, hdoc, htells⟩ := hfault _ h
    exact ⟨doc, htells, .inr ⟨_, _, rfl, hholds, hdoc⟩⟩
  | failed hpage =>
    cases h
    exact absurd hpage (fst_pageOf_ne_breach b)

/-- A document is on a page that a pull before the one of a number received. -/
def Server.Fetched (server : Server ρ) (e : Endpoint) (n : Nat) (s : Paging × ρ) (doc : Value) :
    Prop :=
  ∃ m t page, m < n ∧ server.receivedAt e m s = some t ∧ t.Holds e page ∧ doc ∈ page.documents

theorem Server.Fetched.succ (h : server.Fetched e n s doc) : server.Fetched e (n + 1) s doc := by
  obtain ⟨m, t, page, hm, hreceived⟩ := h
  exact ⟨m, t, page, by omega, hreceived⟩

/-- The documents that are left are on pages received before. -/
theorem fetched_of_mem_left (hs : s.1.left = []) (n : Nat) :
    ∀ doc ∈ (afterPulls (server.pull e) n s).1.left, server.Fetched e n s doc := by
  induction n with
  | zero =>
    intro doc hdoc
    have hleft : doc ∈ s.1.left := hdoc
    rw [hs] at hleft
    cases hleft
  | succ n ih =>
    intro doc hdoc
    rw [afterPulls_succ] at hdoc
    have hcomes := comesTo_pull server e (afterPulls (server.pull e) n s)
    generalize hreceived : server.received? e (afterPulls (server.pull e) n s) = received,
      (server.pull e (afterPulls (server.pull e) n s)).answer = answer,
      (server.pull e (afterPulls (server.pull e) n s)).after.1.left = after at hcomes hdoc
    cases hcomes with
    | unasked _ hafter => exact (ih doc (hafter hdoc)).succ
    | held hholds _ hafter => exact ⟨n, _, _, by omega, hreceived, hholds, hafter hdoc⟩
    | failed => cases hdoc

/-- A search before its first pull, with the server in some state. -/
def opening (criteria : Fields) (r : ρ) : Paging × ρ :=
  (.awaiting criteria 0, r)

/-- What every pull of a search can fail with. A denial is a response that denies, an outage one
that is of no use, and nothing else comes out but what nobody provides for. A breach is that of a
malformed document on a page received up to then. -/
theorem faults_of_search (server : Server ρ) (e : Endpoint) (criteria : Fields) (r : ρ) (n : Nat) :
    (∀ d, answerAt (server.pull e) n (opening criteria r) = .error (.denial d) ↔
      ∃ t, server.receivedAt e n (opening criteria r) = some t ∧ t.Denies e d) ∧
    (∀ b, answerAt (server.pull e) n (opening criteria r) = .error (.breach b) →
      ∃ doc, TellsMalformed doc (.breach b) ∧
        server.Fetched e (n + 1) (opening criteria r) doc) ∧
    ((∃ o, answerAt (server.pull e) n (opening criteria r) = .error (.outage o)) ↔
      ∃ t, server.receivedAt e n (opening criteria r) = some t ∧ t.Fails e) ∧
    ∀ x, answerAt (server.pull e) n (opening criteria r) = .error (.surprise x) ↔
      ∃ t, server.receivedAt e n (opening criteria r) = some t ∧ t.Surprises e x := by
  refine ⟨fun d => ?_, fun b hb => ?_, ?_, fun x => ?_⟩
  · rw [answerAt, answer_pull_eq_error_iff (by rintro doc ⟨_, _, ⟨⟩⟩)]
    simp only [fst_pageOf_eq_denial_iff]
    rfl
  · obtain ⟨doc, htells, hdoc⟩ := breach_of_pull hb
    refine ⟨doc, htells, ?_⟩
    rcases hdoc with hdoc | ⟨t, page, hreceived, hholds, hdoc⟩
    · exact (fetched_of_mem_left rfl n doc hdoc).succ
    · exact ⟨n, t, page, by omega, hreceived, hholds, hdoc⟩
  · constructor
    · rintro ⟨o, ho⟩
      rw [answerAt, answer_pull_eq_error_iff (by rintro doc ⟨_, _, ⟨⟩⟩)] at ho
      obtain ⟨t, hreceived, ht⟩ := ho
      exact ⟨t, hreceived, fst_pageOf_eq_outage_iff.mp ⟨o, ht⟩⟩
    · rintro ⟨t, hreceived, ht⟩
      obtain ⟨o, ho⟩ := fst_pageOf_eq_outage_iff.mpr ht
      refine ⟨o, ?_⟩
      rw [answerAt, answer_pull_eq_error_iff (by rintro doc ⟨_, _, ⟨⟩⟩)]
      exact ⟨t, hreceived, ho⟩
  · rw [answerAt, answer_pull_eq_error_iff (by rintro doc ⟨_, _, ⟨⟩⟩)]
    simp only [fst_pageOf_eq_surprise_iff]
    rfl

/-- The text of a page that tells an infinite number of documents. -/
def boundlessText : String :=
  "\x7b\"response\": \x7b\"numFound\": Infinity, \"docs\": []\x7d\x7d"

/-- A server that finds infinitely many documents and has none. -/
def boundlessServer : Server Unit where
  send _ _ := (.answered 200 boundlessText, ())

/-- The fields of a response that tells an infinite number of documents. -/
def boundlessFields : Fields :=
  [("numFound", .float (Decimal.Double.infinity false)), ("docs", .arr [])]

theorem parse_boundlessText :
    Json.parse .ample boundlessText = .ok (.obj [("response", .obj boundlessFields)]) := by
  have hfields : Json.Writes .last Text.maxDigits 63 _ (.obj boundlessFields) :=
    (Json.WritesFields.cons "numFound" Json.writes_infinity
      (.last "docs" Json.writes_arr_nil)).obj
  have hpage : Json.Writes .last Text.maxDigits 64 _
      (.obj [("response", .obj boundlessFields)]) :=
    (Json.WritesFields.last "response" hfields).obj
  exact Json.parse_of_writes hpage List.all_nil (by decide)

/-- Where the server is. -/
def boundlessEndpoint : Endpoint :=
  ⟨"http://search.local/q", standardRows, standardTimeout, .ample⟩

/-- An infinite number of documents comes out as a fault of its own. -/
theorem answerAt_boundlessServer :
    answerAt (boundlessServer.pull boundlessEndpoint) 0 (opening [] ()) =
      .error (.surprise (.integral .infinite)) := by
  have hsurprises : (Transport.answered 200 boundlessText).Surprises boundlessEndpoint
      (.integral .infinite) :=
    .infinite ⟨200, _, _, rfl, by simp [IsErrorStatus], parse_boundlessText, rfl⟩ (.inl rfl) rfl
  rw [answerAt, answer_pull_eq_error_iff (by rintro doc ⟨_, _, ⟨⟩⟩)]
  exact ⟨_, rfl, fst_pageOf_eq_surprise_iff.mpr hsurprises⟩

end PeopleFeed.Search
