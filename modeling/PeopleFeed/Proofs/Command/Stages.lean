import PeopleFeed.Command.Run
import PeopleFeed.Proofs.Disk.Opening
import PeopleFeed.Proofs.Environment.Loading

/-! The stages of a command before it does its task: the settings, the database, and what a feed is
made of. Where a stage is the last one, the command tells what is wrong, or it comes upon something
that nobody provides for. -/
namespace PeopleFeed.Command

open PeopleFeed.Disk (Node Tree)
open PeopleFeed.Environment (Variables)
open PeopleFeed.Feed (Policy)
open PeopleFeed.Text (encodeUtf8)

section

variable {ε ε' α β : Type} {x : Except ε α} {f : α → Except ε β} {g : α → β} {a : α} {b : β} {e : ε}

theorem exists_of_bind_eq_ok (h : x.bind f = .ok b) : ∃ a, x = .ok a ∧ f a = .ok b := by
  cases x with
  | error e => cases h
  | ok a => exact ⟨a, rfl, h⟩

theorem error_of_bind (h : x.bind f = .error e) :
    x = .error e ∨ ∃ a, x = .ok a ∧ f a = .error e := by
  cases x with
  | error e' => exact .inl (congrArg Except.error (Except.error.inj h))
  | ok a => exact .inr ⟨a, rfl, h⟩

theorem exists_of_map_eq_ok (h : x.map g = .ok b) : ∃ a, x = .ok a ∧ g a = b := by
  cases x with
  | error e => cases h
  | ok a => exact ⟨a, rfl, Except.ok.inj h⟩

theorem eq_error_of_map (h : x.map g = .error e) : x = .error e := by
  cases x with
  | error e' => exact congrArg Except.error (Except.error.inj h)
  | ok a => cases h

theorem eq_ok_of_mapError {change : ε → ε'} (h : x.mapError change = .ok a) : x = .ok a := by
  cases x with
  | error e => cases h
  | ok a' => exact congrArg Except.ok (Except.ok.inj h)

theorem exists_of_mapError_eq_error {change : ε → ε'} {e : ε'} (h : x.mapError change = .error e) :
    ∃ e', x = .error e' ∧ change e' = e := by
  cases x with
  | error e' => exact ⟨e', rfl, Except.error.inj h⟩
  | ok a => cases h

end

variable {p : Platform} {vars : Variables} {a b : Surroundings} {s : Settings} {o : RelatedOptions}
  {g : Ingredients p} {source : Search.Source} {path directory : String} {l : p.engine.Location}
  {level : Log.Level} {e : Surprise} {report : Report}

/-- What a stage reports that is the last one: what is wrong, or a surprise of some kind. -/
def Report.Stops (Surprises : Surprise → Prop) (report : Report) : Prop :=
  (∃ text, report = .refused text) ∨ ∃ e, report = .surprised e ∧ Surprises e

/-- The environment file in some surroundings cannot be loaded. -/
def Unconfigured (p : Platform) (vars : Variables) (a : Surroundings) : Surprise → Prop :=
  Environment.Unloaded p.environment vars (a.disk.file p.engine environmentPath)

theorem stops_of_settingsAround (h : settingsAround p vars a = .error report) :
    report.Stops (Unconfigured p vars a) := by
  unfold settingsAround at h
  split at h
  · rename_i hload
    cases h
    exact .inr ⟨_, rfl, Environment.load_eq_error_iff.mp hload⟩
  · obtain ⟨b, -, rfl⟩ := exists_of_mapError_eq_error h
    exact .inl ⟨_, rfl⟩

/-- A journal that is opened changes the tree only by directories. -/
theorem extends_openJournal (h : a.openJournal directory level = (b, .ok ())) :
    a.disk.Extends b.disk := by
  have hextends := Tree.extends_makeDirectories a.disk directory
  unfold Surroundings.openJournal at h
  split at h
  · cases h
  · rename_i disk hmade
    rw [hmade] at hextends
    split at h
    · cases h
    · cases h
      exact hextends

/-- A database is looked for at a location, as there is something under its path. -/
def Located (p : Platform) (path : String) (a : Surroundings) (l : p.engine.Location) : Prop :=
  (∃ n, a.disk.find (encodeUtf8 path) = .ok n) ∧ p.engine.locate path = .ok l

/-- It cannot be told where the database under a path is: the path is too long, or it names no
location. -/
inductive Unlocated (p : Platform) (path : String) (a : Surroundings) : Surprise → Prop
  | tooLong (h : a.disk.find (encodeUtf8 path) = .error .tooLong) :
      Unlocated p path a (.pathTooLong path)
  | address {n : Node} {e : Surprise} (hfound : a.disk.find (encodeUtf8 path) = .ok n)
      (h : p.engine.locate path = .error e) : Unlocated p path a e

theorem databaseAt_eq_error_iff : databaseAt p path a = .error e ↔ Unlocated p path a e := by
  constructor
  · intro h
    rcases error_of_bind h with h | ⟨isThere, hfound, h⟩
    · obtain ⟨htooLong, rfl⟩ := Tree.has_eq_error_iff.mp h
      exact .tooLong htooLong
    · cases isThere with
      | false => cases h
      | true =>
        obtain ⟨n, hn⟩ := Tree.has_eq_true_iff.mp hfound
        exact .address hn (eq_error_of_map h)
  · rintro (htooLong | ⟨hfound, hat⟩)
    · simp only [databaseAt, Tree.has_eq_error_iff.mpr ⟨htooLong, rfl⟩]
      rfl
    · simp only [databaseAt, Tree.has_eq_true_iff.mpr ⟨_, hfound⟩, hat]
      rfl

theorem databaseAt_eq_some_iff : databaseAt p path a = .ok (some l) ↔ Located p path a l := by
  constructor
  · intro h
    obtain ⟨isThere, hfound, h⟩ := exists_of_bind_eq_ok h
    cases isThere with
    | false => cases h
    | true =>
      obtain ⟨l', hat, hl⟩ := exists_of_map_eq_ok h
      cases hl
      exact ⟨Tree.has_eq_true_iff.mp hfound, hat⟩
  · rintro ⟨hfound, hat⟩
    simp only [databaseAt, Tree.has_eq_true_iff.mpr hfound, hat]
    rfl

/-- What a feed is made of cannot be gathered: the database cannot be found, the path of the results
is too long, or the order has a seed without its value. -/
inductive RelatedOptions.Ungathered (o : RelatedOptions) (p : Platform) (s : Settings)
    (a : Surroundings) : Surprise → Prop
  | unlocated {e : Surprise} (h : Unlocated p (databasePath o.database s) a e) :
      o.Ungathered p s a e
  | tooLong {l : p.engine.Location} {results : String}
      (hat : Located p (databasePath o.database s) a l)
      (hresults : givenPath? o.results = some results)
      (h : a.disk.find (encodeUtf8 results) = .error .tooLong) :
      o.Ungathered p s a (.pathTooLong results)
  | valueMissing {l : p.engine.Location} {source : Search.Source} {policy : Policy}
      (hat : Located p (databasePath o.database s) a l)
      (hsource : searchSource p o s a = .ok source) (hpolicy : s.policy = .ok policy)
      (h : o.seed = some none) : o.Ungathered p s a (.valueMissing orderSwitch.name)

theorem stops_of_searchSource (hat : Located p (databasePath o.database s) a l)
    (h : searchSource p o s a = .error report) : report.Stops (o.Ungathered p s a) := by
  unfold searchSource at h
  split at h
  · rename_i hresults
    split at h
    · cases h
    · cases h
      exact .inl ⟨_, rfl⟩
    · rename_i hfound
      cases h
      obtain ⟨htooLong, rfl⟩ := Tree.has_eq_error_iff.mp hfound
      exact .inr ⟨_, rfl, .tooLong hat hresults htooLong⟩
  · split at h <;> cases h

theorem stops_of_ingredients (h : ingredients p o s a = .error report) :
    report.Stops (o.Ungathered p s a) := by
  rcases error_of_bind h with h | ⟨location?, hat, h⟩
  · obtain ⟨e, hat, rfl⟩ := exists_of_mapError_eq_error h
    exact .inr ⟨e, rfl, .unlocated (databaseAt_eq_error_iff.mp hat)⟩
  cases location? with
  | none =>
    cases h
    exact .inl ⟨_, rfl⟩
  | some l =>
    have hlocated := databaseAt_eq_some_iff.mp (eq_ok_of_mapError hat)
    rcases error_of_bind h with h | ⟨source, hsource, h⟩
    · exact stops_of_searchSource hlocated h
    rcases error_of_bind h with h | ⟨policy, hpolicy, h⟩
    · obtain ⟨b, -, rfl⟩ := exists_of_mapError_eq_error h
      exact .inl ⟨_, rfl⟩
    rcases error_of_bind h with h | ⟨order, -, h⟩
    · obtain ⟨e, horder, rfl⟩ := exists_of_mapError_eq_error h
      unfold feedOrder at horder
      split at horder
      · cases horder
      · rename_i hseed
        cases horder
        exact .inr ⟨_, rfl, .valueMissing hlocated hsource (eq_ok_of_mapError hpolicy) hseed⟩
      · cases horder
    cases h

/-- What has been gathered is of the options, the settings and the surroundings. -/
theorem eq_of_ingredients (h : ingredients p o s a = .ok g) :
    Located p (databasePath o.database s) a g.location ∧ searchSource p o s a = .ok g.source ∧
      s.policy = .ok g.policy ∧ feedOrder o a = .ok g.order := by
  obtain ⟨location?, hat, h⟩ := exists_of_bind_eq_ok h
  cases location? with
  | none => cases h
  | some l =>
    obtain ⟨source, hsource, h⟩ := exists_of_bind_eq_ok h
    obtain ⟨policy, hpolicy, h⟩ := exists_of_bind_eq_ok h
    obtain ⟨order, horder, h⟩ := exists_of_bind_eq_ok h
    cases h
    exact ⟨databaseAt_eq_some_iff.mp (eq_ok_of_mapError hat), hsource, eq_ok_of_mapError hpolicy,
      eq_ok_of_mapError horder⟩

end PeopleFeed.Command
