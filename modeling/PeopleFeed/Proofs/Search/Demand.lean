import Mathlib.Algebra.Ring.Nat
import Mathlib.Order.Bounds.Basic
import Mathlib.Order.Monotone.Basic
import PeopleFeed.Proofs.Search.Faults
import PeopleFeed.Proofs.Search.Paging

/-! A search asks for no page before it needs one. How many requests it has sent, and for which
places, follows from the number of candidates pulled and from the lengths of the pages. -/
namespace PeopleFeed.Search

open PeopleFeed.Json (Value Fields)

variable {ρ : Type} {server : Server ρ} {log : ρ → List PageRequest} {e : Endpoint}
  {criteria : Fields} {pages : List Page} {page : Page} {doc : Value} {s : Paging × ρ} {r : ρ}
  {k m : Nat}

/-- What the state of a server keeps are the requests it was sent, in their order. -/
def Server.Logs (server : Server ρ) (log : ρ → List PageRequest) : Prop :=
  ∀ request r, log (server.send request r).2 = log r ++ [request]

/-- A server that gives some pages one after the other, whatever it is asked for, and behind them
anything. -/
def Server.Deals (server : Server ρ) (e : Endpoint) : List Page → ρ → Prop
  | [], _ => True
  | page :: pages, r => ∀ request,
      (server.send request r).1.Holds e page ∧ server.Deals e pages (server.send request r).2

/-- How many documents the first pages have. -/
def served (pages : List Page) (m : Nat) : Nat :=
  ((pages.take m).map fun page => page.documents.length).sum

/-- A page that has documents, and behind which more are told to be. -/
def IsFollowed (pages : List Page) (m : Nat) (page : Page) : Prop :=
  page.documents ≠ [] ∧ (served pages (m + 1) : Int) < page.found

/-- The parameters of a request that the criteria may override. -/
def standardParams : Fields :=
  [("q", .str "*:*"), ("wt", .str "json")]

/-- A request of the page from a place on, with the criteria as they are given. -/
structure PageRequest.Asks (request : PageRequest) (e : Endpoint) (criteria : Fields)
    (start : Nat) : Prop where
  url : request.url = e.url
  timeout : request.timeout = e.timeout
  start : request.params.get? "start" = some (.int start)
  rows : request.params.get? "rows" = some e.rows
  other : ∀ key, key ≠ "start" → key ≠ "rows" →
    request.params.get? key = (criteria.get? key).or (standardParams.get? key)

theorem asks_pageRequest (hcriteria : criteria.keys.Nodup) (e : Endpoint) (start : Nat) :
    (pageRequest e criteria start).Asks e criteria start where
  url := rfl
  timeout := rfl
  start := start_pageRequest e criteria start
  rows := by simp [pageRequest, pageParams, Fields.get?_insert]
  other := by
    intro key hstart hrows
    simp only [pageRequest, pageParams, Fields.get?_insert, if_neg hstart, if_neg hrows]
    exact Fields.get?_update hcriteria _ key

theorem served_mono (pages : List Page) : Monotone (served pages) :=
  monotone_nat_of_le_succ fun m => by simp [served, List.take_add_one]

theorem served_succ (hm : pages[m]? = some page) :
    served pages (m + 1) = served pages m + page.documents.length := by
  simp [served, List.take_add_one, hm]

/-- Where a search stands after a number of candidates: at its opening, or with some documents of
the last page left, from whose end on the next page would be asked for. -/
inductive Stands (server : Server ρ) (log : ρ → List PageRequest) (e : Endpoint)
    (criteria : Fields) (pages : List Page) : Nat → Paging × ρ → Prop
  | opened {r : ρ} (hdeals : server.Deals e pages r) (hlog : log r = []) :
      Stands server log e criteria pages 0 (opening criteria r)
  | within {m k : Nat} {page : Page} {left : List Value} {r : ρ} (hm : pages[m]? = some page)
      (hdeals : server.Deals e (pages.drop (m + 1)) r)
      (hlog : log r = (List.range (m + 1)).map fun j => pageRequest e criteria (served pages j))
      (hafter : served pages m < k) (hplace : k + left.length = served pages (m + 1))
      (hleft : (pages.flatMap Page.documents).drop k =
        left ++ (pages.drop (m + 1)).flatMap Page.documents) :
      Stands server log e criteria pages k
        (.serving criteria left (served pages (m + 1)) page.found, r)

/-- Pulling the first of the documents left, which are of the page of a number. -/
theorem stands_pullFirst {left : List Value} (hm : pages[m]? = some page)
    (hdeals : server.Deals e (pages.drop (m + 1)) r)
    (hlog : log r = (List.range (m + 1)).map fun j => pageRequest e criteria (served pages j))
    (hbefore : served pages m ≤ k) (hplace : k + left.length = served pages (m + 1))
    (hleft : (pages.flatMap Page.documents).drop k =
      left ++ (pages.drop (m + 1)).flatMap Page.documents)
    (hsome : left ≠ []) (hdoc : (pages.flatMap Page.documents)[k]? = some doc)
    (notes : List Log.Note) :
    (pullFirst criteria (served pages (m + 1)) page.found notes left).answer =
        (pullDocument doc).map some ∧
      (IsWellFormed doc → Stands server log e criteria pages (k + 1)
        ((pullFirst criteria (served pages (m + 1)) page.found notes left).after, r)) := by
  obtain ⟨first, rest, rfl⟩ := List.exists_cons_of_ne_nil hsome
  have hfirst : first = doc := by
    rw [← List.head?_drop, hleft] at hdoc
    simpa using hdoc
  subst hfirst
  cases hpull : pullDocument first with
  | error fault =>
    constructor
    · simp only [pullFirst, hpull]
      rfl
    · rintro ⟨candidate, hcandidate⟩
      rw [hpull] at hcandidate
      cases hcandidate
  | ok candidate =>
    simp only [pullFirst, hpull]
    refine ⟨rfl, fun _ => ?_⟩
    have hrest : (pages.flatMap Page.documents).drop (k + 1) =
        rest ++ (pages.drop (m + 1)).flatMap Page.documents := by
      rw [← List.drop_drop, hleft]
      rfl
    rw [List.length_cons] at hplace
    exact .within hm hdeals hlog (by omega) (by omega) hrest

/-- Requesting the page of a number and pulling its first document. -/
theorem stands_pullPage (hpages : ∀ m page, pages[m]? = some page → IsFollowed pages m page)
    (hrecords : server.Logs log) (hm : pages[m]? = some page)
    (hdeals : server.Deals e (pages.drop m) r)
    (hlog : log r = (List.range m).map fun j => pageRequest e criteria (served pages j))
    (hleft : (pages.flatMap Page.documents).drop (served pages m) =
      (pages.drop m).flatMap Page.documents)
    (hdoc : (pages.flatMap Page.documents)[served pages m]? = some doc) :
    (pullPage server e criteria (served pages m) r).1.answer = (pullDocument doc).map some ∧
      (IsWellFormed doc → Stands server log e criteria pages (served pages m + 1)
        ((pullPage server e criteria (served pages m) r).1.after,
          (pullPage server e criteria (served pages m) r).2)) := by
  obtain ⟨hlength, hget⟩ := List.getElem?_eq_some_iff.mp hm
  have hdrop : pages.drop m = page :: pages.drop (m + 1) := by
    rw [List.drop_eq_getElem_cons hlength, hget]
  rw [hdrop] at hdeals hleft
  obtain ⟨hholds, hdeals⟩ := hdeals (pageRequest e criteria (served pages m))
  obtain ⟨notes, hpull⟩ := pullPage_of_holds hholds
  rw [hpull, ← served_succ hm]
  refine stands_pullFirst hm hdeals ?_ (Nat.le_refl _) (served_succ hm).symm ?_
    (hpages m page hm).1 hdoc notes
  · rw [hrecords, hlog, List.range_succ, List.map_append]
    rfl
  · rw [hleft, List.flatMap_cons]

/-- A pull of a search that goes through some pages gives the next of their documents, and asks for
a page only where none is left of the one before. -/
theorem pull_stands (hpages : ∀ m page, pages[m]? = some page → IsFollowed pages m page)
    (hrecords : server.Logs log) (h : Stands server log e criteria pages k s)
    (hdoc : (pages.flatMap Page.documents)[k]? = some doc) :
    (server.pull e s).answer = (pullDocument doc).map some ∧
      (IsWellFormed doc → Stands server log e criteria pages (k + 1) (server.pull e s).after) := by
  cases h with
  | opened hdeals hlog =>
    obtain ⟨page, hm⟩ : ∃ page, pages[0]? = some page := by
      cases pages with
      | nil => simp at hdoc
      | cons page pages => exact ⟨page, rfl⟩
    exact stands_pullPage hpages hrecords hm hdeals hlog rfl hdoc
  | @within m k page left r hm hdeals hlog hafter hplace hleft =>
    cases left with
    | cons first rest =>
      exact stands_pullFirst hm hdeals hlog (by omega) hplace hleft (by simp) hdoc []
    | nil =>
      obtain rfl : k = served pages (m + 1) := hplace
      obtain ⟨page', hm'⟩ : ∃ page', pages[m + 1]? = some page' := by
        by_contra hnone
        have hover : pages.drop (m + 1) = [] := by
          apply List.drop_eq_nil_of_le
          rw [← List.getElem?_eq_none_iff]
          exact Option.eq_none_iff_forall_ne_some.mpr fun page' hm' => hnone ⟨page', hm'⟩
        rw [← List.head?_drop, hleft, hover] at hdoc
        simp at hdoc
      have hfound : ¬ page.found ≤ served pages (m + 1) := not_le_of_gt (hpages m page hm).2
      have hmore : server.pull e (.serving criteria [] (served pages (m + 1)) page.found, r) =
          server.pull e (.awaiting criteria (served pages (m + 1)), r) := by
        simp [Server.pull, Paging.pull, hfound]
      rw [hmore]
      exact stands_pullPage hpages hrecords hm' hdeals hlog hleft hdoc

/-- As long as the documents are well formed, every pull gives the next of them. -/
theorem stands_afterPulls (e : Endpoint) (criteria : Fields)
    (hpages : ∀ m page, pages[m]? = some page → IsFollowed pages m page)
    (hrecords : server.Logs log) (hdeals : server.Deals e pages r) (hlog : log r = [])
    (hk : k ≤ (pages.flatMap Page.documents).length)
    (hwell : ∀ doc ∈ (pages.flatMap Page.documents).take k, IsWellFormed doc) :
    Stands server log e criteria pages k (afterPulls (server.pull e) k (opening criteria r)) := by
  induction k with
  | zero => exact .opened hdeals hlog
  | succ k ih =>
    have hdoc : (pages.flatMap Page.documents)[k]? = some (pages.flatMap Page.documents)[k] :=
      List.getElem?_eq_getElem hk
    rw [List.take_add_one, hdoc] at hwell
    have hstands := ih (by omega) fun doc hmem => hwell doc (List.mem_append_left _ hmem)
    rw [afterPulls_succ]
    exact (pull_stands hpages hrecords hstands hdoc).2
      (hwell _ (List.mem_append_right _ (by simp)))

/-- The documents behind successful pulls are well formed. -/
theorem isWellFormed_of_pulls (hpages : ∀ m page, pages[m]? = some page → IsFollowed pages m page)
    (hrecords : server.Logs log) (hdeals : server.Deals e pages r) (hlog : log r = [])
    (hk : k ≤ (pages.flatMap Page.documents).length)
    (hpulls : ∀ i < k, ∃ candidate,
      answerAt (server.pull e) i (opening criteria r) = .ok (some candidate)) :
    ∀ doc ∈ (pages.flatMap Page.documents).take k, IsWellFormed doc := by
  induction k with
  | zero => simp
  | succ k ih =>
    have hwell := ih (by omega) fun i hi => hpulls i (by omega)
    have hdoc : (pages.flatMap Page.documents)[k]? = some (pages.flatMap Page.documents)[k] :=
      List.getElem?_eq_getElem hk
    have hstands := stands_afterPulls e criteria hpages hrecords hdeals hlog
      (Nat.le_of_succ_le hk) hwell
    obtain ⟨candidate, hcandidate⟩ := hpulls k (by omega)
    intro doc hmem
    rw [List.take_add_one, hdoc] at hmem
    rcases List.mem_append.mp hmem with hmem | hmem
    · exact hwell doc hmem
    · obtain rfl : doc = (pages.flatMap Page.documents)[k] := by simpa using hmem
      have hanswer := (pull_stands hpages hrecords hstands hdoc).1
      rw [answerAt, hanswer] at hcandidate
      cases hpull : pullDocument (pages.flatMap Page.documents)[k] with
      | ok candidate => exact ⟨candidate, hpull⟩
      | error fault =>
        rw [hpull] at hcandidate
        cases hcandidate

/-- The requests of a search, by where it stands. -/
theorem Stands.requests (hcriteria : criteria.keys.Nodup)
    (h : Stands server log e criteria pages k s) :
    IsLeast {m | k ≤ served pages m} (log s.2).length ∧
      ∀ j (request : PageRequest), (log s.2)[j]? = some request →
        request.Asks e criteria (served pages j) := by
  cases h with
  | opened hdeals hlog =>
    simp only [opening, hlog]
    exact ⟨⟨Nat.zero_le _, fun _ _ => Nat.zero_le _⟩, by simp⟩
  | @within m k page left r hm hdeals hlog hafter hplace hleft =>
    simp only [hlog, List.length_map, List.length_range]
    refine ⟨⟨?_, ?_⟩, ?_⟩
    · simp only [Set.mem_ofPred_eq]
      omega
    · intro n hn
      by_contra hless
      have hmono : served pages n ≤ served pages m := served_mono pages (by omega)
      simp only [Set.mem_ofPred_eq] at hn
      omega
    · intro j request hj
      obtain ⟨i, hi, rfl⟩ : ∃ i, (List.range (m + 1))[j]? = some i ∧
          pageRequest e criteria (served pages i) = request := by
        simpa using hj
      obtain rfl : j = i := by
        obtain ⟨hlength, hget⟩ := List.getElem?_eq_some_iff.mp hi
        simpa using hget
      exact asks_pageRequest hcriteria e _

theorem length_flatMap_documents (pages : List Page) :
    (pages.flatMap Page.documents).length = served pages pages.length := by
  simp [served, List.length_flatMap]

/-- Searching a server that gives some pages, each with documents and told to be followed by more.
After a number of pulls that give a candidate, no more pages are requested than these candidates
need, each at the place behind the pages before it and of the size set, whatever the criteria say
about the place and the size. -/
theorem requests_of_pulls (hdeals : server.Deals e pages r) (hrecords : server.Logs log)
    (hlog : log r = []) (hpages : ∀ m page, pages[m]? = some page → IsFollowed pages m page)
    (hcriteria : criteria.keys.Nodup) (hk : k ≤ served pages pages.length)
    (hpulls : ∀ i < k, ∃ candidate,
      answerAt (server.pull e) i (opening criteria r) = .ok (some candidate)) :
    let sent := log (afterPulls (server.pull e) k (opening criteria r)).2
    IsLeast {m | k ≤ served pages m} sent.length ∧
      ∀ j (request : PageRequest), sent[j]? = some request →
        request.Asks e criteria (served pages j) := by
  rw [← length_flatMap_documents] at hk
  have hwell := isWellFormed_of_pulls hpages hrecords hdeals hlog hk hpulls
  exact (stands_afterPulls e criteria hpages hrecords hdeals hlog hk hwell).requests hcriteria

theorem logs_preparedServer : preparedServer.Logs Prod.snd := by
  rintro request ⟨_ | ⟨transport, ahead⟩, sent⟩ <;> rfl

/-- Two pages of a search that has found nine documents. -/
def crowdPages : List Page :=
  [⟨[bobDocument, bobDocument], 9⟩, ⟨[bobDocument], 9⟩]

def crowdTransport (page : Page) : Transport :=
  .answered 200 ((foundValue page.found page.documents).toJson .plain)

theorem holds_crowdTransport (hpage : page ∈ crowdPages) :
    (crowdTransport page).Holds slowEndpoint page := by
  have hbob : ∀ doc ∈ page.documents, Json.Rereadable Text.maxDigits 61 doc := by
    intro doc hdoc
    obtain rfl : doc = bobDocument := by
      revert doc page
      simp [crowdPages]
    exact rereadable_bobDocument
  have hfound : page.found = 9 := by
    revert page
    simp [crowdPages]
  exact holds_foundValue hbob (by rw [hfound]; decide)

theorem deals_crowdPages :
    preparedServer.Deals slowEndpoint crowdPages (crowdPages.map crowdTransport, []) :=
  fun _ => ⟨holds_crowdTransport (by simp [crowdPages]),
    fun _ => ⟨holds_crowdTransport (by simp [crowdPages]), trivial⟩⟩

/-- Criteria that would like to set everything. -/
def greedyCriteria : Fields :=
  [("rows", .int 1), ("start", .int 7), ("q", .str "name:bob"), ("fq", .str "staff")]

theorem isFollowed_crowdPages :
    ∀ m page, crowdPages[m]? = some page → IsFollowed crowdPages m page := by
  intro m page hm
  match m with
  | 0 =>
    cases hm
    exact ⟨by simp, by decide⟩
  | 1 =>
    cases hm
    exact ⟨by simp, by decide⟩
  | m + 2 => simp [crowdPages] at hm

/-- Each of the three documents is pulled. -/
theorem answerAt_crowdPages : ∀ i < 3, ∃ candidate,
    answerAt (preparedServer.pull slowEndpoint) i
      (opening greedyCriteria (crowdPages.map crowdTransport, [])) = .ok (some candidate) := by
  have hdocuments : crowdPages.flatMap Page.documents = List.replicate 3 bobDocument := rfl
  have hwell : ∀ doc ∈ crowdPages.flatMap Page.documents, IsWellFormed doc := by
    intro doc hdoc
    rw [hdocuments] at hdoc
    rw [List.eq_of_mem_replicate hdoc]
    exact ⟨_, rfl⟩
  intro i hi
  have hdoc : (crowdPages.flatMap Page.documents)[i]? = some bobDocument := by
    rw [hdocuments, List.getElem?_replicate, if_pos hi]
  have hstands := stands_afterPulls (k := i) slowEndpoint greedyCriteria
    isFollowed_crowdPages logs_preparedServer deals_crowdPages rfl
    (by rw [hdocuments, List.length_replicate]; omega)
    fun doc hmem => hwell doc (List.mem_of_mem_take hmem)
  exact ⟨_, (pull_stands isFollowed_crowdPages logs_preparedServer hstands hdoc).1⟩

/-- Three candidates take two requests. The second is for the place behind the first page, with the
question of the criteria and the size of the page as it is set. -/
theorem requests_crowdPages :
    IsLeast {m | 3 ≤ served crowdPages m}
      (afterPulls (preparedServer.pull slowEndpoint) 3
        (opening greedyCriteria (crowdPages.map crowdTransport, []))).2.2.length ∧
      ∀ j (request : PageRequest), (afterPulls (preparedServer.pull slowEndpoint) 3
          (opening greedyCriteria (crowdPages.map crowdTransport, []))).2.2[j]? = some request →
        request.Asks slowEndpoint greedyCriteria (served crowdPages j) :=
  requests_of_pulls deals_crowdPages logs_preparedServer rfl isFollowed_crowdPages
    (by decide) (by decide) answerAt_crowdPages

end PeopleFeed.Search
