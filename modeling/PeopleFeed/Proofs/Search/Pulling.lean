import Mathlib.Logic.Function.Iterate
import PeopleFeed.Search.Source

/-! Pulling a stream again and again. Streams under a relation that every pull keeps give the same
for ever. -/
namespace PeopleFeed.Search

open PeopleFeed.Json (Value Fields)

variable {codec : Json.Codec} {π π' ρ : Type} {next : π → Pulled π} {next' : π' → Pulled π'}
  {R : π → π' → Prop}
  {s : π} {s' : π'} {docs : List Value} {n : Nat}

/-- A stream after a number of pulls. -/
def afterPulls (next : π → Pulled π) (n : Nat) (s : π) : π :=
  (fun s => (next s).after)^[n] s

/-- What the pull of a number gives, the first at zero. -/
def answerAt (next : π → Pulled π) (n : Nat) (s : π) : Except Fault (Option Candidate) :=
  (next (afterPulls next n s)).answer

theorem afterPulls_succ (n : Nat) (s : π) :
    afterPulls next (n + 1) s = (next (afterPulls next n s)).after :=
  Function.iterate_succ_apply' ..

theorem answerAt_succ (n : Nat) (s : π) :
    answerAt next (n + 1) s = answerAt next n (next s).after :=
  rfl

theorem answerAt_congr
    (hnext : ∀ s s', R s s' →
      (next s).answer = (next' s').answer ∧ R (next s).after (next' s').after)
    (hs : R s s') (n : Nat) : answerAt next n s = answerAt next' n s' := by
  induction n generalizing s s' with
  | zero => exact (hnext s s' hs).1
  | succ n ih =>
    rw [answerAt_succ, answerAt_succ]
    exact ih (hnext s s' hs).2

/-- Documents as a stream: each gives its candidate, and a malformed one ends it. -/
def pullDocuments : List Value → Pulled (List Value)
  | [] => ⟨.ok none, [], []⟩
  | doc :: left =>
    match pullDocument doc with
    | .ok candidate => ⟨.ok (some candidate), [], left⟩
    | .error fault => ⟨.error fault, [], []⟩

/-- Whether a candidate can be made of a document. -/
def IsWellFormed (doc : Value) : Prop :=
  ∃ candidate, pullDocument doc = .ok candidate

theorem pullDocuments_of_ok {doc : Value} {candidate : Candidate} (left : List Value)
    (h : pullDocument doc = .ok candidate) :
    pullDocuments (doc :: left) = ⟨.ok (some candidate), [], left⟩ := by
  simp only [pullDocuments, h]

theorem pullDocuments_of_error {doc : Value} {fault : Fault} (left : List Value)
    (h : pullDocument doc = .error fault) :
    pullDocuments (doc :: left) = ⟨.error fault, [], []⟩ := by
  simp only [pullDocuments, h]

theorem answer_pullDocuments_cons (doc : Value) (left : List Value) :
    (pullDocuments (doc :: left)).answer = (pullDocument doc).map some := by
  cases h : pullDocument doc with
  | ok candidate => rw [pullDocuments_of_ok left h]; rfl
  | error fault => rw [pullDocuments_of_error left h]; rfl

/-- As long as the documents are well formed they come one by one in their order. -/
theorem answerAt_pullDocuments (h : ∀ doc ∈ docs.take n, IsWellFormed doc) :
    answerAt pullDocuments n docs =
      docs[n]?.elim (.ok none) fun doc => (pullDocument doc).map some := by
  induction n generalizing docs with
  | zero =>
    cases docs with
    | nil => rfl
    | cons doc left => exact answer_pullDocuments_cons doc left
  | succ n ih =>
    rw [answerAt_succ]
    cases docs with
    | nil =>
      have hnil : answerAt pullDocuments n [] = .ok none := by
        simpa using @ih [] (by simp)
      simpa [pullDocuments] using hnil
    | cons doc left =>
      obtain ⟨candidate, hcandidate⟩ := h doc (by simp)
      rw [pullDocuments_of_ok left hcandidate]
      have hleft : ∀ doc ∈ left.take n, IsWellFormed doc := by
        intro doc' hdoc'
        exact h doc' (by simp [hdoc'])
      simpa using ih hleft

/-- Pulls the next candidate of a search of a server. -/
def Server.pull (server : Server ρ) (e : Endpoint) (s : Paging × ρ) : Pulled (Paging × ρ) :=
  let (p, r) := s.1.pull server e s.2
  ⟨p.answer, p.notes, (p.after, r)⟩

/-- What lies ahead on a source that reads a file. -/
inductive FileLeft (codec : Json.Codec) (path : String) (content : Json.File) :
    List Value → Source → Prop
  | unread {docs : List Value} (h : readResults codec path content = .ok docs) :
      FileLeft codec path content docs (.file codec path content .unread)
  | left (docs : List Value) :
      FileLeft codec path content docs (.file codec path content (.left docs))
  | exhausted : FileLeft codec path content [] (.file codec path content .exhausted)

/-- A source that reads a file goes through its documents. -/
theorem pull_fileLeft {path : String} {content : Json.File} {source : Source}
    (h : FileLeft codec path content docs source) :
    source.pull.answer = (pullDocuments docs).answer ∧
      FileLeft codec path content (pullDocuments docs).after source.pull.after := by
  have hread : ∀ docs, (Source.pullReading docs).1 = (pullDocuments docs).answer ∧
      FileLeft codec path content (pullDocuments docs).after
        (.file codec path content (Source.pullReading docs).2) := by
    intro docs
    cases docs with
    | nil => exact ⟨rfl, .exhausted⟩
    | cons doc left =>
      cases hdoc : pullDocument doc with
      | ok candidate =>
        simp only [Source.pullReading, pullDocuments_of_ok left hdoc, hdoc]
        exact ⟨trivial, .left left⟩
      | error fault =>
        simp only [Source.pullReading, pullDocuments_of_error left hdoc, hdoc]
        exact ⟨trivial, .exhausted⟩
  cases h with
  | unread hdocs =>
    simp only [Source.pull, hdocs]
    exact hread docs
  | left =>
    simp only [Source.pull]
    exact hread docs
  | exhausted => exact ⟨rfl, .exhausted⟩

theorem answerAt_file {path : String} {content : Json.File}
    (h : readResults codec path content = .ok docs) (criteria : Fields) (n : Nat) :
    answerAt Source.pull n ((Source.ofFile codec path content).query criteria) =
      answerAt pullDocuments n docs :=
  answerAt_congr (R := fun source docs => FileLeft codec path content docs source)
    (fun _ _ hleft => pull_fileLeft hleft) (.unread h) n

end PeopleFeed.Search
