import PeopleFeed.Search.Paging

/-! What comes of a response: the page that it holds, a denial by its status, what nobody provides
for, or else an outage. -/
namespace PeopleFeed.Search

open PeopleFeed.Json (Value Fields)

variable {e : Endpoint} {t : Transport} {page : Page} {response response' : Fields}
  {documents documents' : List Value} {d : Denial} {s : Surprise} {status : Nat} {body : String}

/-- Whether a status tells of an error. -/
def IsErrorStatus (status : Nat) : Prop :=
  400 ≤ status ∧ status < 600

/-- The documents that a response object lists. What counts as false lists none. -/
def Lists (response : Fields) (documents : List Value) : Prop :=
  response.get? "docs" = some (.arr documents) ∨
    documents = [] ∧ ∀ v, response.get? "docs" = some v → v.isTruthy = false

/-- What a response object tells as the number of documents found. -/
def toldFound (response : Fields) : Value :=
  (response.get? "numFound").getD (.int 0)

namespace Transport

/-- A response without an error, whose body has an object for the search. -/
def Brings (t : Transport) (e : Endpoint) (response : Fields) : Prop :=
  ∃ status body data, t = .answered status body ∧ ¬ IsErrorStatus status ∧
    Json.parse e.codec body = .ok data ∧ data.get? "response" = some (.obj response)

/-- A response that holds a page. -/
def Holds (t : Transport) (e : Endpoint) (page : Page) : Prop :=
  ∃ response, t.Brings e response ∧ Lists response page.documents ∧
    (toldFound response).toInteger = .ok page.found

/-- A response whose status refuses the request. -/
def Denies (t : Transport) (e : Endpoint) (d : Denial) : Prop :=
  ∃ status body, t = .answered status body ∧ (status = 401 ∨ status = 403) ∧
    d = .search status e.url

/-- A response that nobody provides for: its body has too many brackets inside of each other, or
its number of documents is infinite. -/
inductive Surprises (e : Endpoint) : Transport → Surprise → Prop
  | nested {status : Nat} {body : String} {bracket : Json.Bracket} (hs : ¬ IsErrorStatus status)
      (hb : Json.parse e.codec body = .error (.tooDeep bracket)) :
      Surprises e (.answered status body) (.nestedTooDeep bracket)
  | infinite {t : Transport} {response : Fields} {documents : List Value} (ht : t.Brings e response)
      (hd : Lists response documents) (hn : (toldFound response).toInteger = .error .infinite) :
      Surprises e t (.integral .infinite)

/-- A response that is of no use. -/
structure Fails (t : Transport) (e : Endpoint) : Prop where
  notHeld : ∀ page, ¬ t.Holds e page
  notDenied : ∀ d, ¬ t.Denies e d
  notSurprised : ∀ s, ¬ t.Surprises e s

theorem Brings.unique (h : t.Brings e response) (h' : t.Brings e response') :
    response = response' := by
  obtain ⟨status, body, data, rfl, -, hbody, hdata⟩ := h
  obtain ⟨_, _, data', hanswered, -, hbody', hdata'⟩ := h'
  cases hanswered
  have hsame : data = data' := by
    rw [hbody] at hbody'
    cases hbody'
    rfl
  rw [hsame, hdata'] at hdata
  cases hdata
  rfl

theorem Denies.unique {d' : Denial} (h : t.Denies e d) (h' : t.Denies e d') : d = d' := by
  obtain ⟨status, body, rfl, -, rfl⟩ := h
  obtain ⟨_, _, hanswered, -, rfl⟩ := h'
  cases hanswered
  rfl

/-- A refused request brings nothing. -/
theorem Brings.not_denies (h : t.Brings e response) : ¬ t.Denies e d := by
  obtain ⟨status, body, data, rfl, hstatus, -, -⟩ := h
  rintro ⟨_, _, hanswered, hdenied, -⟩
  cases hanswered
  apply hstatus
  unfold IsErrorStatus
  omega

theorem Holds.not_denies (h : t.Holds e page) : ¬ t.Denies e d := by
  obtain ⟨response, hresponse, -⟩ := h
  exact hresponse.not_denies

theorem Surprises.not_denies (h : t.Surprises e s) : ¬ t.Denies e d := by
  cases h with
  | nested hstatus =>
    rintro ⟨_, _, hanswered, hdenied, -⟩
    cases hanswered
    apply hstatus
    unfold IsErrorStatus
    omega
  | infinite ht => exact ht.not_denies

/-- What a page tells is what the response brings. -/
theorem Holds.of_brings (h : t.Holds e page) (hresponse : t.Brings e response) :
    Lists response page.documents ∧ (toldFound response).toInteger = .ok page.found := by
  obtain ⟨response', hresponse', hdocuments, hfound⟩ := h
  rw [hresponse.unique hresponse']
  exact ⟨hdocuments, hfound⟩

/-- Where a response brings something, nothing but its number can surprise. -/
theorem Surprises.of_brings (h : t.Surprises e s) (hresponse : t.Brings e response) :
    s = .integral .infinite ∧ (∃ documents, Lists response documents) ∧
      (toldFound response).toInteger = .error .infinite := by
  cases h with
  | nested hstatus hnested =>
    obtain ⟨_, _, data, hanswered, -, hbody, -⟩ := hresponse
    cases hanswered
    rw [hnested] at hbody
    cases hbody
  | infinite ht hdocuments hinfinite =>
    rw [hresponse.unique ht]
    exact ⟨rfl, ⟨_, hdocuments⟩, hinfinite⟩

theorem Surprises.not_holds (h : t.Surprises e s) : ¬ t.Holds e page := by
  rintro ⟨response, hresponse, -, hfound⟩
  obtain ⟨-, -, hinfinite⟩ := h.of_brings hresponse
  rw [hfound] at hinfinite
  cases hinfinite

theorem Surprises.unique {s' : Surprise} (h : t.Surprises e s) (h' : t.Surprises e s') :
    s = s' := by
  cases h with
  | nested hstatus hnested =>
    cases h' with
    | nested _ hnested' =>
      rw [hnested] at hnested'
      cases hnested'
      rfl
    | infinite ht => exact (Surprises.of_brings (.nested hstatus hnested) ht).1
  | infinite ht => exact (h'.of_brings ht).1.symm

end Transport

theorem Lists.unique (h : Lists response documents) (h' : Lists response documents') :
    documents = documents' := by
  -- An empty list counts as false as well.
  have hnil : ∀ {ds : List Value}, (Value.arr ds).isTruthy = false → ds = [] := by
    intro ds hds
    simpa [Value.isTruthy] using hds
  rcases h with h | ⟨rfl, h⟩ <;> rcases h' with h' | ⟨rfl, h'⟩
  · rw [h] at h'
    cases h'
    rfl
  · exact hnil (h' _ h)
  · exact (hnil (h _ h')).symm
  · rfl

theorem Transport.Holds.unique {page' : Page} (h : t.Holds e page) (h' : t.Holds e page') :
    page = page' := by
  obtain ⟨response, hresponse, hdocuments, hfound⟩ := h
  obtain ⟨hdocuments', hfound'⟩ := h'.of_brings hresponse
  obtain ⟨documents, found⟩ := page
  obtain ⟨documents', found'⟩ := page'
  obtain rfl : documents = documents' := hdocuments.unique hdocuments'
  have hsame : Except.ok found = Except.ok found' := hfound.symm.trans hfound'
  cases hsame
  rfl

/-- All that can come of a response. -/
inductive Received (e : Endpoint) (t : Transport) : Except Fault Page → Prop
  | page {page : Page} (h : t.Holds e page) : Received e t (.ok page)
  | denied {d : Denial} (h : t.Denies e d) : Received e t (.error (.denial d))
  | surprised {s : Surprise} (h : t.Surprises e s) : Received e t (.error (.surprise s))
  | failed (o : Outage) (h : t.Fails e) : Received e t (.error (.outage o))

theorem numFound_cases (e : Endpoint) (response : Fields) :
    (∃ n, (toldFound response).toInteger = .ok n ∧ numFound e response = .ok n) ∨
    ((toldFound response).toInteger = .error .infinite ∧
      numFound e response = .error (.surprise (.integral .infinite))) ∨
    ∃ x o, x ≠ .infinite ∧ (toldFound response).toInteger = .error x ∧
      numFound e response = .error (.outage o) := by
  unfold numFound
  dsimp only
  split
  · rename_i n hn
    exact .inl ⟨n, hn, rfl⟩
  · rename_i hn
    exact .inr (.inl ⟨hn, rfl⟩)
  · rename_i x hx hn
    exact .inr (.inr ⟨x, _, hx, hn, rfl⟩)

/-- A response object lists documents, so that its number of them decides, or it is an outage. -/
theorem pageOfResponse_cases (e : Endpoint) (response : Fields) :
    (∃ documents, Lists response documents ∧
      pageOfResponse e response = (numFound e response).map fun found => ⟨documents, found⟩) ∨
    (∀ documents, ¬ Lists response documents) ∧
      ∃ o, pageOfResponse e response = .error (.outage o) := by
  unfold pageOfResponse
  cases hdocs : response.get? "docs" with
  | none => exact .inl ⟨[], .inr ⟨rfl, by simp [hdocs]⟩, rfl⟩
  | some v =>
    cases htruthy : v.isTruthy with
    | false =>
      refine .inl ⟨[], .inr ⟨rfl, ?_⟩, by simp [htruthy]⟩
      intro w hw
      rw [hdocs] at hw
      cases hw
      exact htruthy
    | true =>
      have hlists : ∀ documents, Lists response documents → v = .arr documents := by
        rintro documents (h | ⟨-, h⟩)
        · rw [hdocs] at h
          cases h
          rfl
        · rw [h v hdocs] at htruthy
          cases htruthy
      cases v with
      | arr documents => exact .inl ⟨documents, .inl hdocs, by simp [htruthy]⟩
      | _ =>
        refine .inr ⟨fun documents h => ?_, _, by simp [htruthy]; rfl⟩
        cases hlists documents h

/-- What comes of a response that brings an object for the search. -/
theorem received_of_brings (h : t.Brings e response) :
    Received e t (pageOfResponse e response) := by
  rcases pageOfResponse_cases e response with ⟨documents, hlists, hpage⟩ | ⟨hlists, o, hpage⟩
  · rw [hpage]
    rcases numFound_cases e response with ⟨n, hn, hnum⟩ | ⟨hn, hnum⟩ | ⟨x, o, hx, hn, hnum⟩
    · rw [hnum]
      exact .page ⟨response, h, hlists, hn⟩
    · rw [hnum]
      exact .surprised (.infinite h hlists hn)
    · rw [hnum]
      refine .failed o ⟨fun page hholds => ?_, fun _ => h.not_denies, fun s hsurprises => ?_⟩
      · have hfound := (hholds.of_brings h).2
        rw [hn] at hfound
        cases hfound
      · obtain ⟨-, -, hinfinite⟩ := hsurprises.of_brings h
        rw [hn] at hinfinite
        cases hinfinite
        exact hx rfl
  · rw [hpage]
    refine .failed o ⟨fun page hholds => ?_, fun _ => h.not_denies, fun s hsurprises => ?_⟩
    · exact hlists _ (hholds.of_brings h).1
    · obtain ⟨-, ⟨documents, hdocuments⟩, -⟩ := hsurprises.of_brings h
      exact hlists _ hdocuments

/-- A response that brings nothing and has not too many brackets inside of each other is of no use,
unless it refuses the request. -/
theorem fails_of_not_brings (hresponse : ∀ response, ¬ t.Brings e response)
    (hdenied : ∀ d, ¬ t.Denies e d)
    (hnested : ∀ bracket, ¬ t.Surprises e (.nestedTooDeep bracket)) : t.Fails e where
  notHeld := by
    rintro page ⟨response, h, -⟩
    exact hresponse response h
  notDenied := hdenied
  notSurprised := by
    intro s hs
    cases hs with
    | nested hstatus hbody => exact hnested _ (.nested hstatus hbody)
    | infinite ht => exact hresponse _ ht

/-- What comes of a body, where the status tells of no error. -/
theorem received_pageOfBody (hstatus : ¬ IsErrorStatus status) :
    Received e (.answered status body) (pageOfBody e body).1 := by
  have hdenied : ∀ d, ¬ (Transport.answered status body).Denies e d := by
    rintro d ⟨_, _, hanswered, hdenied, -⟩
    cases hanswered
    apply hstatus
    unfold IsErrorStatus
    omega
  cases hbody : Json.parse e.codec body with
  | error x =>
    have hresponse : ∀ response, ¬ (Transport.answered status body).Brings e response := by
      rintro response ⟨_, _, data, hanswered, -, hdata, -⟩
      cases hanswered
      rw [hbody] at hdata
      cases hdata
    cases x with
    | tooDeep bracket =>
      simp only [pageOfBody, hbody]
      exact .surprised (.nested hstatus hbody)
    | malformed | tooManyDigits =>
      simp only [pageOfBody, hbody, requestFault]
      refine .failed _ (fails_of_not_brings hresponse hdenied ?_)
      intro bracket hsurprises
      cases hsurprises with
      | nested _ hnested =>
        rw [hbody] at hnested
        cases hnested
  | ok data =>
    by_cases hdata : ∃ response, data.get? "response" = some (.obj response)
    · obtain ⟨response, hdata⟩ := hdata
      simp only [pageOfBody, hbody, hdata]
      exact received_of_brings ⟨status, body, data, rfl, hstatus, hbody, hdata⟩
    · have hpage : ∃ o, (pageOfBody e body).1 = .error (.outage o) := by
        simp only [pageOfBody, hbody]
        split
        · rename_i response hresponse
          exact absurd ⟨response, hresponse⟩ hdata
        · exact ⟨_, rfl⟩
      obtain ⟨o, ho⟩ := hpage
      rw [ho]
      refine .failed o (fails_of_not_brings ?_ hdenied ?_)
      · rintro response ⟨_, _, data', hanswered, -, hbody', hdata'⟩
        cases hanswered
        rw [hbody] at hbody'
        cases hbody'
        exact hdata ⟨response, hdata'⟩
      · intro bracket hsurprises
        cases hsurprises with
        | nested _ hnested =>
          rw [hbody] at hnested
          cases hnested

/-- A status that tells of an error is of no use, unless it refuses the request. -/
theorem fails_of_isErrorStatus (hstatus : IsErrorStatus status)
    (hdenied : ¬ (status = 401 ∨ status = 403)) : (Transport.answered status body).Fails e := by
  apply fails_of_not_brings
  · rintro response ⟨_, _, data, hanswered, hgood, -, -⟩
    cases hanswered
    exact hgood hstatus
  · rintro d ⟨_, _, hanswered, h, -⟩
    cases hanswered
    exact hdenied h
  · intro bracket hsurprises
    cases hsurprises with
    | nested hgood => exact hgood hstatus

theorem fails_of_not_answered (h : ∀ status body, t ≠ .answered status body) : t.Fails e := by
  apply fails_of_not_brings
  · rintro response ⟨status, body, -, hanswered, -⟩
    exact h status body hanswered
  · rintro d ⟨status, body, hanswered, -⟩
    exact h status body hanswered
  · intro bracket hsurprises
    cases hsurprises with
    | nested => exact h _ _ rfl

theorem received_of_isErrorStatus (hstatus : IsErrorStatus status) :
    Received e (.answered status body) (statusFault e (some status)).1 := by
  by_cases hdenied : status = 401 ∨ status = 403
  · have hfault : (statusFault e (some status)).1 = .error (.denial (.search status e.url)) := by
      rcases hdenied with rfl | rfl <;> rfl
    rw [hfault]
    exact .denied ⟨status, body, rfl, hdenied, rfl⟩
  · have hfault : ∃ o, (statusFault e (some status)).1 = .error (.outage o) := by
      unfold statusFault
      split
      · rename_i h
        cases h
        simp at hdenied
      · rename_i h
        cases h
        simp at hdenied
      · exact ⟨_, rfl⟩
    obtain ⟨o, ho⟩ := hfault
    rw [ho]
    exact .failed o (fails_of_isErrorStatus hstatus hdenied)

theorem received_pageOf (e : Endpoint) (t : Transport) : Received e t (pageOf e t).1 := by
  cases t with
  | answered status body =>
    by_cases hstatus : IsErrorStatus status
    · have hpage : pageOf e (.answered status body) = statusFault e (some status) := by
        simp [pageOf, hstatus.1, hstatus.2]
      rw [hpage]
      exact received_of_isErrorStatus hstatus
    · have hpage : pageOf e (.answered status body) = pageOfBody e body := by
        unfold IsErrorStatus at hstatus
        simp only [pageOf, Bool.and_eq_true, decide_eq_true_eq, if_neg hstatus]
      rw [hpage]
      exact received_pageOfBody hstatus
  | _ => exact .failed _ (fails_of_not_answered (by simp))

theorem fst_pageOf_eq_ok (h : t.Holds e page) : (pageOf e t).1 = .ok page := by
  have hreceived := received_pageOf e t
  generalize (pageOf e t).1 = x at hreceived
  cases hreceived with
  | page h' => rw [h.unique h']
  | denied h' => exact absurd h' h.not_denies
  | surprised h' => exact absurd h h'.not_holds
  | failed o h' => exact absurd h (h'.notHeld page)

theorem fst_pageOf_eq_denial_iff :
    (pageOf e t).1 = .error (.denial d) ↔ t.Denies e d := by
  have hreceived := received_pageOf e t
  generalize (pageOf e t).1 = x at hreceived
  cases hreceived with
  | page h' => simpa using h'.not_denies
  | denied h' =>
    constructor
    · rintro ⟨⟩
      exact h'
    · intro h
      rw [h.unique h']
  | surprised h' => simpa using h'.not_denies
  | failed o h' => simpa using h'.notDenied d

theorem fst_pageOf_eq_surprise_iff :
    (pageOf e t).1 = .error (.surprise s) ↔ t.Surprises e s := by
  have hreceived := received_pageOf e t
  generalize (pageOf e t).1 = x at hreceived
  cases hreceived with
  | page h' => simpa using fun h : t.Surprises e s => h.not_holds h'
  | denied h' => simpa using fun h : t.Surprises e s => h.not_denies h'
  | surprised h' =>
    constructor
    · rintro ⟨⟩
      exact h'
    · intro h
      rw [h.unique h']
  | failed o h' => simpa using h'.notSurprised s

theorem fst_pageOf_eq_outage_iff :
    (∃ o, (pageOf e t).1 = .error (.outage o)) ↔ t.Fails e := by
  have hreceived := received_pageOf e t
  generalize (pageOf e t).1 = x at hreceived
  cases hreceived with
  | page h' => simpa using fun h : t.Fails e => h.notHeld _ h'
  | denied h' => simpa using fun h : t.Fails e => h.notDenied _ h'
  | surprised h' => simpa using fun h : t.Fails e => h.notSurprised _ h'
  | failed o h' => simpa using h'

theorem fst_pageOf_ne_breach (b : Breach) : (pageOf e t).1 ≠ .error (.breach b) := by
  intro h
  have hreceived := received_pageOf e t
  rw [h] at hreceived
  cases hreceived

end PeopleFeed.Search
