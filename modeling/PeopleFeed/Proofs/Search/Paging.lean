import PeopleFeed.Proofs.Json.Reading
import PeopleFeed.Proofs.Search.Pulling
import PeopleFeed.Proofs.Search.Response

/-! How documents are split into pages does not show: a search of a server that has some documents
goes through them as if they were in a file. -/
namespace PeopleFeed.Search

open PeopleFeed.Json (Value Fields)

variable {codec : Json.Codec} {ρ : Type} {server : Server ρ} {e : Endpoint} {criteria : Fields}
  {docs left : List Value} {next : Nat} {found : Int} {page : Page} {r : ρ}

/-- A server that has some documents. It answers every request with those from a place on, as many
as it likes, but some if there are any. -/
def Serves (server : Server ρ) (e : Endpoint) (docs : List Value) : Prop :=
  ∀ request r (start : Nat), request.params.get? "start" = some (.int start) →
    ∃ page, (server.send request r).1.Holds e page ∧ page.found = docs.length ∧
      page.documents <+: docs.drop start ∧ (start < docs.length → page.documents ≠ [])

/-- A file that has some documents, alone or as the response of a search. -/
def HasDocuments (codec : Json.Codec) (path : String) (content : Json.File) (docs : List Value) :
    Prop :=
  ∃ v, content.read codec path = .ok v ∧
    (v = .arr docs ∨ ∃ response, v.get? "response" = some (.obj response) ∧
      Fields.get? "docs" response = some (.arr docs))

theorem start_pageRequest (e : Endpoint) (criteria : Fields) (start : Nat) :
    (pageRequest e criteria start).params.get? "start" = some (.int start) := by
  simp [pageRequest, pageParams, Fields.get?_insert]

/-- What is left of a search of a server that has some documents. -/
inductive Remains (docs : List Value) : List Value → Paging × ρ → Prop
  | awaiting (criteria : Fields) (start : Nat) (r : ρ) :
      Remains docs (docs.drop start) (.awaiting criteria start, r)
  | serving (criteria : Fields) (left : List Value) (next : Nat) (r : ρ) :
      Remains docs (left ++ docs.drop next) (.serving criteria left next docs.length, r)
  | closed (r : ρ) : Remains docs [] (.closed, r)

/-- Pulling the first of the documents at hand, with others on the server behind them. -/
theorem remains_pullFirst (hleft : left ≠ [] ∨ docs.drop next = []) (notes : List Log.Note) :
    (pullFirst criteria next docs.length notes left).answer =
        (pullDocuments (left ++ docs.drop next)).answer ∧
      Remains docs (pullDocuments (left ++ docs.drop next)).after
        ((pullFirst criteria next docs.length notes left).after, r) := by
  cases left with
  | nil =>
    have hdocs : docs.drop next = [] := by
      rcases hleft with hleft | hdocs
      · exact absurd rfl hleft
      · exact hdocs
    rw [hdocs]
    exact ⟨rfl, .closed r⟩
  | cons doc left =>
    rw [List.cons_append]
    cases hdoc : pullDocument doc with
    | ok candidate =>
      simp only [pullFirst, hdoc, pullDocuments_of_ok _ hdoc]
      exact ⟨trivial, .serving criteria left next r⟩
    | error fault =>
      simp only [pullFirst, hdoc, pullDocuments_of_error _ hdoc]
      exact ⟨trivial, .closed r⟩

theorem pullPage_of_holds {start : Nat}
    (h : (server.send (pageRequest e criteria start) r).1.Holds e page) :
    ∃ notes, pullPage server e criteria start r =
      (pullFirst criteria (start + page.documents.length) page.found notes page.documents,
        (server.send (pageRequest e criteria start) r).2) := by
  have hpage := fst_pageOf_eq_ok h
  unfold pullPage
  generalize server.send (pageRequest e criteria start) r = sent at hpage
  obtain ⟨transport, r'⟩ := sent
  dsimp only at hpage ⊢
  generalize pageOf e transport = noted at hpage
  obtain ⟨answer, notes⟩ := noted
  obtain rfl : answer = .ok page := hpage
  exact ⟨notes, rfl⟩

/-- Requesting the page from a place on goes on with the documents from there on. -/
theorem remains_pullPage (hserver : Serves server e docs) (criteria : Fields)
    (start : Nat) (r : ρ) :
    (pullPage server e criteria start r).1.answer = (pullDocuments (docs.drop start)).answer ∧
      Remains docs (pullDocuments (docs.drop start)).after
        ((pullPage server e criteria start r).1.after, (pullPage server e criteria start r).2) := by
  obtain ⟨page, hholds, hfound, ⟨rest, hrest⟩, hsome⟩ :=
    hserver _ r start (start_pageRequest e criteria start)
  obtain ⟨notes, hpull⟩ := pullPage_of_holds hholds
  have hbehind : docs.drop (start + page.documents.length) = rest := by
    rw [← List.drop_drop, ← hrest, List.drop_left]
  have hsplit : docs.drop start =
      page.documents ++ docs.drop (start + page.documents.length) := by
    rw [hbehind, hrest]
  have hleft : page.documents ≠ [] ∨ docs.drop (start + page.documents.length) = [] := by
    by_cases hstart : start < docs.length
    · exact .inl (hsome hstart)
    · right
      apply List.drop_eq_nil_of_le
      omega
  rw [hpull, hfound, hsplit]
  exact remains_pullFirst hleft notes

/-- A search of a server that has some documents goes through them. -/
theorem pull_remains (hserver : Serves server e docs) {rest : List Value}
    {s : Paging × ρ} (h : Remains docs rest s) :
    (server.pull e s).answer = (pullDocuments rest).answer ∧
      Remains docs (pullDocuments rest).after (server.pull e s).after := by
  cases h with
  | awaiting criteria start r => exact remains_pullPage hserver criteria start r
  | closed r => exact ⟨rfl, .closed r⟩
  | serving criteria left next r =>
    cases left with
    | cons doc left => exact remains_pullFirst (.inl (by simp)) []
    | nil =>
      rw [List.nil_append]
      by_cases hnext : docs.length ≤ next
      · have hover : server.pull e (.serving criteria [] next docs.length, r) =
            ⟨.ok none, [], .closed, r⟩ := by
          simp [Server.pull, Paging.pull, hnext]
        rw [hover, List.drop_eq_nil_of_le hnext]
        exact ⟨rfl, .closed r⟩
      · have hmore : server.pull e (.serving criteria [] next docs.length, r) =
            server.pull e (.awaiting criteria next, r) := by
          simp [Server.pull, Paging.pull, hnext]
        rw [hmore]
        exact remains_pullPage hserver criteria next r

theorem readResults_of_hasDocuments {path : String} {content : Json.File}
    (h : HasDocuments codec path content docs) : readResults codec path content = .ok docs := by
  obtain ⟨v, hread, hv⟩ := h
  have hdocs : documentsIn? v = some docs := by
    rcases hv with rfl | ⟨response, hresponse, hdocs⟩
    · rfl
    · cases v with
      | obj fields =>
        have hfields : Fields.get? "response" fields = some (.obj response) := hresponse
        simp [documentsIn?, hfields, hdocs]
      | _ => simp [Value.get?, Value.fields?] at hresponse
  simp [readResults, hread, hdocs]

/-- Searching a server for documents and reading them from a file come to the same, pull by pull,
however the server splits them into pages. As long as the documents are well formed they come one
by one in their order; a malformed one is told in its place. -/
theorem answerAt_server_eq_file (hserver : Serves server e docs) {path : String}
    {content : Json.File} (hfile : HasDocuments codec path content docs) (criteria : Fields)
    (r : ρ) (n : Nat) :
    answerAt (server.pull e) n (.awaiting criteria 0, r) =
        answerAt Source.pull n ((Source.ofFile codec path content).query criteria) ∧
      ((∀ doc ∈ docs.take n, IsWellFormed doc) →
        answerAt (server.pull e) n (.awaiting criteria 0, r) =
          docs[n]?.elim (.ok none) fun doc => (pullDocument doc).map some) := by
  have hpaged : answerAt (server.pull e) n (.awaiting criteria 0, r) =
      answerAt pullDocuments n docs :=
    answerAt_congr (R := fun s rest => Remains docs rest s)
      (fun _ _ h => pull_remains hserver h) (.awaiting criteria 0 r) n
  constructor
  · rw [hpaged, answerAt_file (readResults_of_hasDocuments hfile)]
  · intro hwell
    rw [hpaged]
    exact answerAt_pullDocuments hwell

/-- A document about Bob. -/
def bobDocument : Value := .obj [("path", .str "bob")]

/-- What a page of a number of documents in all is made of. -/
def foundValue (found : Int) (docs : List Value) : Value :=
  .obj [("response", .obj [("numFound", .int found), ("docs", .arr docs)])]

/-- What a page of two documents in all is made of. -/
def pageValue (docs : List Value) : Value :=
  .obj [("response", .obj [("numFound", .int 2), ("docs", .arr docs)])]

/-- A server with a document about Bob and one without a path, which gives one at a time. -/
def slowServer : Server Unit where
  send request _ :=
    let page (docs : List Value) := Transport.answered 200 ((pageValue docs).toJson .plain)
    match request.params.get? "start" with
    | some (.int 0) => (page [bobDocument], ())
    | some (.int 1) => (page [.obj []], ())
    | _ => (page [], ())

/-- Where the slow server is. -/
def slowEndpoint : Endpoint :=
  ⟨"http://search.local/q", standardRows, standardTimeout, .ample⟩

theorem rereadable_bobDocument {digits room : Nat} :
    Json.Rereadable digits (room + 1) bobDocument :=
  .obj (by decide) (by simpa using .str _ _)

theorem holds_foundValue {found : Int} (h : ∀ doc ∈ docs, Json.Rereadable Text.maxDigits 61 doc)
    (hfound : (Nat.toDigits 10 found.natAbs).length ≤ Text.maxDigits) :
    (Transport.answered 200 ((foundValue found docs).toJson .plain)).Holds slowEndpoint
      ⟨docs, found⟩ := by
  have hresponse : Json.Rereadable Text.maxDigits 63
      (.obj [("numFound", .int found), ("docs", .arr docs)]) := by
    refine .obj (by simp [Fields.keys]) ?_
    intro f hf
    simp only [List.mem_cons, List.not_mem_nil, or_false] at hf
    rcases hf with rfl | rfl
    · exact .int _ hfound
    · exact .arr h
  have hpage : Json.Rereadable Text.maxDigits 64 (foundValue found docs) :=
    .obj (by simp [Fields.keys]) (by simpa using hresponse)
  have hparse : Json.parse .ample ((foundValue found docs).toJson .plain) =
      .ok (foundValue found docs) := Json.parse_toJson hpage
  exact ⟨_, ⟨200, _, _, rfl, by simp [IsErrorStatus], hparse, rfl⟩, .inl rfl, rfl⟩

theorem holds_pageValue (h : ∀ doc ∈ docs, Json.Rereadable Text.maxDigits 61 doc) :
    (Transport.answered 200 ((pageValue docs).toJson .plain)).Holds slowEndpoint ⟨docs, 2⟩ :=
  holds_foundValue h (by decide)

theorem serves_slowServer : Serves slowServer slowEndpoint [bobDocument, .obj []] := by
  intro request r start hstart
  match start with
  | 0 =>
    refine ⟨⟨[bobDocument], 2⟩, ?_, rfl, by simp, by simp⟩
    simp only [slowServer, hstart]
    exact holds_pageValue (by simpa using rereadable_bobDocument)
  | 1 =>
    refine ⟨⟨[.obj []], 2⟩, ?_, rfl, by simp, by simp⟩
    simp only [slowServer, hstart]
    exact holds_pageValue (by simpa using .obj List.nodup_nil (by simp))
  | start + 2 =>
    refine ⟨⟨[], 2⟩, ?_, rfl, by simp, by simp⟩
    simp only [slowServer, hstart]
    exact holds_pageValue (by simp)

/-- A file with the documents that the slow server has. -/
def bobFile : Json.File := .ofValue (.arr [bobDocument, .obj []])

theorem hasDocuments_bobFile :
    HasDocuments .ample "results.json" bobFile [bobDocument, .obj []] := by
  have hdocuments : Json.Rereadable Text.maxDigits 64 (.arr [bobDocument, .obj []]) :=
    .arr (by simpa using ⟨rereadable_bobDocument, .obj List.nodup_nil (by simp)⟩)
  have hread : bobFile.read .ample "results.json" = .ok (.arr [bobDocument, .obj []]) :=
    Json.read_ofValue hdocuments "results.json"
  exact ⟨_, hread, .inl rfl⟩

/-- The second document is malformed, on its page as in the file. -/
theorem answerAt_slowServer_eq_file :
    answerAt (slowServer.pull slowEndpoint) 1 (.awaiting [] 0, ()) =
        answerAt Source.pull 1 ((Source.ofFile .ample "results.json" bobFile).query []) ∧
      answerAt (slowServer.pull slowEndpoint) 1 (.awaiting [] 0, ()) =
        (pullDocument (.obj [])).map some := by
  have hsame := answerAt_server_eq_file serves_slowServer hasDocuments_bobFile [] () 1
  refine ⟨hsame.1, hsame.2 ?_⟩
  simpa using ⟨_, rfl⟩

end PeopleFeed.Search
