import PeopleFeed.Proofs.Directory.Upsert

/-! Sessions with a database. Every entry of a seed is looked up before it is written, all that is
written is kept in the end, and the first act that fails is the last one. What the database refuses
is undone; any other failure comes out as it is, and what is kept stays as it was. -/
namespace PeopleFeed.Directory

open PeopleFeed.Seed (Part)

/-- What a session does with a database. -/
inductive Act
  | lookUp (part : Part) (keys : List String)
  | write (columns : List String) (change : Database.Change)
  | commit

/-- Why an act fails. -/
inductive Cause
  /-- The database refuses it. -/
  | database
  /-- Anything else, which nobody translates. -/
  | other (surprise : Surprise)

/-- A session: the database that is kept, as the session sees it, and how many acts there were. -/
structure Session where
  kept : Database
  working : Database
  count : Nat

/-- Whether an act fails that could be done, by the number of acts before, what the session sees and
what it would see behind the act. -/
abbrev Refusal := Nat → Database → Database → Option Cause

/-- Whether the rows of a section can be looked up. -/
def Database.hasRows (db : Database) : Part → Bool
  | .accounts => db.accounts.rows?.isSome
  | .memberships => db.memberships.rows?.isSome
  | .connections => db.connections.rows?.isSome

namespace Act

/-- The texts that an act puts into a statement. -/
def texts : Act → List String
  | lookUp _ keys => keys
  | write columns _ => columns
  | commit => []

/-- What an act makes of a session where its table is there. -/
def change? : Act → Session → Option Session
  | lookUp part _, s => if s.working.hasRows part then some s else none
  | write _ change, s => (change s.working).map fun changed => { s with working := changed }
  | commit, s => some { s with kept := s.working }

/-- How an act is refused that others follow. -/
def rejection : Act → List Act → Rejection
  | write .., lookUp .. :: _ => .atNext
  | _, _ => .atOnce

/-- What comes of a failure of an act that others follow. -/
def failure (a : Act) (rest : List Act) : Cause → Failure
  | .database => .refused (a.rejection rest)
  | .other s => .untranslated s

end Act

namespace Session

/-- A session before its first act. -/
def start (db : Database) : Session :=
  ⟨db, db, 0⟩

/-- A session behind an act that fails. What the database refuses undoes what is not kept, and so
does all that goes wrong as something is written. -/
def failed (s : Session) (a : Act) (cause : Cause) : Session :=
  match a, cause with
  | .write .., _ | _, .database => { s with working := s.kept, count := s.count + 1 }
  | _, .other _ => { s with count := s.count + 1 }

/-- A session after an act, or why the act fails. -/
def act (st : Text.Standins) (refuses : Refusal) (s : Session) (a : Act) : Except Cause Session :=
  match a.change? s with
  | none => .error .database
  | some next =>
    match st.tearIn? a.texts with
    | some e => .error (.other (.unencodable e))
    | none =>
      match refuses s.count s.working next.working with
      | some cause => .error cause
      | none => .ok { next with count := s.count + 1 }

/-- A session after acts, of which the first that fails ends it. -/
def run (st : Text.Standins) (refuses : Refusal) : List Act → Session → Session × Option Failure
  | [], s => (s, none)
  | a :: rest, s =>
    match s.act st refuses a with
    | .ok next => next.run st refuses rest
    | .error cause => (s.failed a cause, some (a.failure rest cause))

end Session

/-- The acts that write entries. -/
def writing (steps : List Step) : List Act :=
  steps.flatMap fun step => [.lookUp step.part step.keys, .write step.columns step.change]

/-- A sealed database refuses what would change it. -/
def sealing (isSealed : Bool) : Refusal :=
  fun _ before after => if isSealed && after != before then some .database else none

variable {st : Text.Standins} {refuses : Refusal} {s next last after : Session} {a : Act}
  {acts : List Act} {steps : List Step} {cause : Cause}

namespace Session

theorem act_eq_ok_iff : s.act st refuses a = .ok next ↔
    ∃ changed, a.change? s = some changed ∧ st.tearIn? a.texts = none ∧
      refuses s.count s.working changed.working = none ∧
      { changed with count := s.count + 1 } = next := by
  cases hchange : a.change? s with
  | none => simp [act, hchange]
  | some changed =>
    cases htear : st.tearIn? a.texts with
    | some e => simp [act, hchange, htear]
    | none => cases hrefused : refuses s.count s.working changed.working <;>
        simp [act, hchange, htear, hrefused]

/-- What nobody translates is a text that cannot be encoded, or comes from the database itself. -/
theorem of_act_eq_other {e : Surprise} (h : s.act st refuses a = .error (.other e)) :
    (∃ error, st.tearIn? a.texts = some error ∧ e = .unencodable error) ∨
      ∃ after, refuses s.count s.working after = some (.other e) := by
  cases hchange : a.change? s with
  | none => simp [act, hchange] at h
  | some changed =>
    cases htear : st.tearIn? a.texts with
    | some error =>
      simp only [act, hchange, htear] at h
      cases h
      exact .inl ⟨error, rfl, rfl⟩
    | none =>
      cases hrefused : refuses s.count s.working changed.working with
      | none => simp [act, hchange, htear, hrefused] at h
      | some cause =>
        simp only [act, hchange, htear, hrefused] at h
        cases h
        exact .inr ⟨changed.working, hrefused⟩

/-- An act of a session fails behind those that it did. -/
structure FailsAt (st : Text.Standins) (refuses : Refusal) (s : Session) (acts done : List Act)
    (a : Act) (rest : List Act) (last : Session) (cause : Cause) : Prop where
  split : acts = done ++ a :: rest
  reaches : done.foldlM (act st refuses) s = .ok last
  fails : last.act st refuses a = .error cause

/-- A session does all its acts, or one of them fails. -/
theorem run_cases (st : Text.Standins) (refuses : Refusal) (s : Session) (acts : List Act) :
    (∃ after, acts.foldlM (act st refuses) s = .ok after ∧
      s.run st refuses acts = (after, none)) ∨
    ∃ done a rest last cause, s.FailsAt st refuses acts done a rest last cause ∧
      s.run st refuses acts = (last.failed a cause, some (a.failure rest cause)) := by
  induction acts generalizing s with
  | nil => exact .inl ⟨s, rfl, rfl⟩
  | cons a rest ih =>
    rw [run, List.foldlM_cons]
    cases hnext : s.act st refuses a with
    | error cause => exact .inr ⟨[], a, rest, s, cause, ⟨rfl, rfl, hnext⟩, rfl⟩
    | ok next =>
      rcases ih next with ⟨after, hafter, hrun⟩ | ⟨done, b, others, last, cause, hfails, hrun⟩
      · exact .inl ⟨after, hafter, hrun⟩
      · refine .inr ⟨a :: done, b, others, last, cause, ⟨?_, ?_, hfails.fails⟩, hrun⟩
        · rw [hfails.split, List.cons_append]
        · rw [List.foldlM_cons, hnext]
          exact hfails.reaches

/-- Only the end of a session changes what is kept. -/
theorem kept_of_act (ha : a ≠ .commit) (h : s.act st refuses a = .ok next) :
    next.kept = s.kept := by
  obtain ⟨changed, hchange, -, -, rfl⟩ := act_eq_ok_iff.mp h
  cases a with
  | lookUp part keys =>
    simp only [Act.change?] at hchange
    split at hchange
    · cases hchange
      rfl
    · cases hchange
  | write columns change =>
    obtain ⟨d, -, rfl⟩ := Option.map_eq_some_iff.mp hchange
    rfl
  | commit => exact absurd rfl ha

theorem kept_of_foldlM (hacts : ∀ a ∈ acts, a ≠ .commit)
    (h : acts.foldlM (act st refuses) s = .ok last) : last.kept = s.kept := by
  induction acts generalizing s with
  | nil =>
    cases h
    rfl
  | cons a rest ih =>
    obtain ⟨ha, hrest⟩ := List.forall_mem_cons.mp hacts
    rw [List.foldlM_cons] at h
    cases hnext : s.act st refuses a with
    | error cause =>
      rw [hnext] at h
      cases h
    | ok next =>
      rw [hnext] at h
      exact (ih hrest h).trans (kept_of_act ha hnext)

theorem ne_commit_of_mem_writing (h : a ∈ writing steps) : a ≠ .commit := by
  obtain ⟨step, -, ha⟩ := List.mem_flatMap.mp h
  rintro rfl
  simp at ha

/-- The acts in front of the one that fails are no commit. -/
theorem FailsAt.kept_eq {done rest : List Act}
    (h : s.FailsAt st refuses (writing steps ++ [.commit]) done a rest last cause) :
    last.kept = s.kept := by
  apply kept_of_foldlM ?_ h.reaches
  intro b hb
  have hlength : done.length ≤ (writing steps).length := by
    have hsplit := congrArg List.length h.split
    simp only [List.length_append, List.length_cons, List.length_nil] at hsplit
    omega
  have hdone : done = (writing steps).take done.length := by
    rw [← List.take_append_of_le_length hlength, h.split, List.take_left]
  rw [hdone] at hb
  exact ne_commit_of_mem_writing (List.mem_of_mem_take hb)

theorem working_of_lookUp {part : Part} {keys : List String}
    (h : s.act st refuses (.lookUp part keys) = .ok next) : next.working = s.working := by
  obtain ⟨changed, hchange, -, -, rfl⟩ := act_eq_ok_iff.mp h
  simp only [Act.change?] at hchange
  split at hchange
  · cases hchange
    rfl
  · cases hchange

theorem working_of_write {columns : List String} {change : Database.Change}
    (h : s.act st refuses (.write columns change) = .ok next) :
    change s.working = some next.working := by
  obtain ⟨changed, hchange, -, -, rfl⟩ := act_eq_ok_iff.mp h
  obtain ⟨d, hd, rfl⟩ := Option.map_eq_some_iff.mp hchange
  exact hd

theorem commit_eq (h : s.act st refuses .commit = .ok next) :
    next.kept = s.working ∧ next.working = s.working := by
  obtain ⟨changed, hchange, -, -, rfl⟩ := act_eq_ok_iff.mp h
  cases hchange
  exact ⟨rfl, rfl⟩

theorem foldlM_cons_eq_ok (h : (a :: acts).foldlM (act st refuses) s = .ok last) :
    ∃ next, s.act st refuses a = .ok next ∧ acts.foldlM (act st refuses) next = .ok last := by
  rw [List.foldlM_cons] at h
  cases hnext : s.act st refuses a with
  | error cause =>
    rw [hnext] at h
    cases h
  | ok next =>
    rw [hnext] at h
    exact ⟨next, rfl, h⟩

/-- Entries that are written are the changes of a database one after the other. -/
theorem foldlM_of_writing
    (h : (writing steps ++ [Act.commit]).foldlM (act st refuses) s = .ok last) :
    last.kept = last.working ∧
      (steps.map Step.change).foldlM (fun db change => change db) s.working = some last.kept := by
  induction steps generalizing s with
  | nil =>
    obtain ⟨next, hcommit, hend⟩ := foldlM_cons_eq_ok h
    cases hend
    obtain ⟨hkept, hworking⟩ := commit_eq hcommit
    exact ⟨hkept.trans hworking.symm, by simp [hkept]⟩
  | cons step rest ih =>
    obtain ⟨found, hfound, h⟩ := foldlM_cons_eq_ok h
    obtain ⟨written, hwritten, h⟩ := foldlM_cons_eq_ok h
    have hchange := working_of_write hwritten
    rw [working_of_lookUp hfound] at hchange
    obtain ⟨hkept, hrest⟩ := ih h
    exact ⟨hkept, by rw [List.map_cons, List.foldlM_cons, hchange]; exact hrest⟩

theorem tear?_eq (st : Text.Standins) (step : Step) :
    step.tear? st = (st.tearIn? step.keys).or (st.tearIn? step.columns) :=
  List.findSome?_append

/-- Entries that are written can be encoded. -/
theorem tear?_of_writing
    (h : (writing steps ++ [Act.commit]).foldlM (act st refuses) s = .ok last) :
    ∀ step ∈ steps, step.tear? st = none := by
  induction steps generalizing s with
  | nil => simp
  | cons step rest ih =>
    obtain ⟨found, hfound, h⟩ := foldlM_cons_eq_ok h
    obtain ⟨written, hwritten, h⟩ := foldlM_cons_eq_ok h
    obtain ⟨-, -, hkeys, -⟩ := act_eq_ok_iff.mp hfound
    obtain ⟨-, -, hcolumns, -⟩ := act_eq_ok_iff.mp hwritten
    have hstep : step.tear? st = none := by
      rw [tear?_eq]
      exact Option.or_eq_none_iff.mpr ⟨hkeys, hcolumns⟩
    exact List.forall_mem_cons.mpr ⟨hstep, ih h⟩

/-- The texts of an act are those of an entry. -/
theorem exists_step_of_writing (h : a ∈ writing steps ++ [Act.commit]) {error : Text.EncodeError}
    (htear : st.tearIn? a.texts = some error) : ∃ step ∈ steps,
      st.tearIn? step.keys = some error ∨ st.tearIn? step.columns = some error := by
  rcases List.mem_append.mp h with hwriting | hcommit
  · obtain ⟨step, hstep, ha⟩ := List.mem_flatMap.mp hwriting
    simp only [List.mem_cons, List.not_mem_nil, or_false] at ha
    rcases ha with rfl | rfl
    · exact ⟨step, hstep, .inl htear⟩
    · exact ⟨step, hstep, .inr htear⟩
  · rw [List.mem_singleton.mp hcommit] at htear
    cases htear

/-! A database that fails of itself only where it is sealed. -/

section

variable {isSealed : Bool} {part : Part} {keys columns : List String} {change : Database.Change}

theorem act_lookUp_sealing (s : Session) : s.act st (sealing isSealed) (.lookUp part keys) =
    if s.working.hasRows part then
      match st.tearIn? keys with
      | some e => .error (.other (.unencodable e))
      | none => .ok { s with count := s.count + 1 }
    else .error .database := by
  by_cases hrows : s.working.hasRows part = true
  · cases htear : st.tearIn? keys <;> simp [act, Act.change?, Act.texts, sealing, hrows, htear]
  · simp [act, Act.change?, hrows]

theorem act_write_sealing (s : Session) : s.act st (sealing isSealed) (.write columns change) =
    match change s.working with
    | none => .error .database
    | some changed =>
      match st.tearIn? columns with
      | some e => .error (.other (.unencodable e))
      | none =>
        if isSealed && changed != s.working then .error .database
        else .ok ⟨s.kept, changed, s.count + 1⟩ := by
  cases hchange : change s.working with
  | none => simp [act, Act.change?, hchange]
  | some changed =>
    cases htear : st.tearIn? columns with
    | some e => simp [act, Act.change?, Act.texts, hchange, htear]
    | none =>
      by_cases hsealed : (isSealed && changed != s.working) = true
      · simp [act, Act.change?, Act.texts, sealing, hchange, htear, hsealed]
      · simp [act, Act.change?, Act.texts, sealing, hchange, htear, hsealed]

/-- An entry can be looked up just if it can be written. -/
def Matches (steps : List Step) : Prop :=
  ∀ step ∈ steps, ∀ db : Database, db.hasRows step.part = (step.change db).isSome

theorem matches_stepsOf (t : Times) (seed : Seed) : Matches (stepsOf t seed) := by
  intro step hstep db
  simp only [stepsOf, List.mem_append, List.mem_map] at hstep
  rcases hstep with (⟨e, -, rfl⟩ | ⟨m, -, rfl⟩) | ⟨c, -, rfl⟩
  · simp [Database.hasRows, Database.putAccount]
  · simp [Database.hasRows, Database.putMembership]
  · simp [Database.hasRows, Database.putConnection]

/-- What writing entries is the session's doing as well: it keeps what they make of a database, or
it fails as the writing does and keeps what it had. -/
def Follows (r : Session × Option Failure) (kept : Database) : Except Failure Database → Prop
  | .ok changed => r.2 = none ∧ r.1.kept = changed
  | .error failure => r.2 = some failure ∧ r.1.kept = kept

theorem follows_writeSteps (h : Matches steps) (s : Session) :
    Follows (s.run st (sealing isSealed) (writing steps ++ [.commit])) s.kept
      (writeSteps st isSealed s.working steps) := by
  induction steps generalizing s with
  | nil =>
    have hcommit : s.act st (sealing isSealed) .commit =
        .ok ⟨s.working, s.working, s.count + 1⟩ := by
      simp [act, Act.change?, Act.texts, sealing, Text.Standins.tearIn?]
    have hrun : s.run st (sealing isSealed) (writing [] ++ [.commit]) =
        (⟨s.working, s.working, s.count + 1⟩, none) := by
      rw [writing, List.flatMap_nil, List.nil_append, run, hcommit]
      rfl
    rw [hrun]
    exact ⟨rfl, rfl⟩
  | cons step rest ih =>
    obtain ⟨hstep, hrest⟩ := List.forall_mem_cons.mp h
    have hacts : writing (step :: rest) ++ [.commit] = .lookUp step.part step.keys ::
        .write step.columns step.change :: (writing rest ++ [.commit]) := rfl
    rw [hacts, run, act_lookUp_sealing, hstep, writeSteps, tear?_eq]
    cases hchange : step.change s.working with
    | none => exact ⟨rfl, rfl⟩
    | some changed =>
      cases hkeys : st.tearIn? step.keys with
      | some e => exact ⟨rfl, rfl⟩
      | none =>
        simp only [Option.isSome_some, if_true, Option.none_or]
        rw [run, act_write_sealing, hchange]
        cases hcolumns : st.tearIn? step.columns with
        | some e => exact ⟨rfl, rfl⟩
        | none =>
          by_cases hsealed : (isSealed && changed != s.working) = true
          · simp only [hsealed, if_true]
            -- The failure shows at the next entry, if there is one.
            cases rest <;> exact ⟨rfl, rfl⟩
          · simp only [hsealed]
            exact ih hrest ⟨s.kept, changed, s.count + 1 + 1⟩

end

end Session

end PeopleFeed.Directory
