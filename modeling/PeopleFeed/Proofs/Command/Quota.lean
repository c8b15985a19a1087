import PeopleFeed.Proofs.Command.Stages
import PeopleFeed.Proofs.Feed.Run

/-! The page size of a command that assembles a feed: the one asked for, or else that of the
settings. Both are numbers that were read, so that they have few enough digits to be read again. -/
namespace PeopleFeed.Command

open PeopleFeed.Environment (Variables)
open PeopleFeed.Feed (Count Policy positiveCount)
open PeopleFeed.Text (length_toDigits_of_readInteger maxDigits)

variable {p : Platform} {vars vs : Variables} {a : Surroundings} {s : Settings} {name : String}
  {args : List String} {i : Invocation} {o : RelatedOptions} {policy : Policy} {n : Int}
  {limit : Limit}
  {quota : Count}

/-! The settings. -/

theorem length_toDigits_of_integer {default : Int}
    (hdefault : (Nat.toDigits 10 default.natAbs).length ≤ maxDigits)
    (h : Settings.integer vs name default = .ok n) :
    (Nat.toDigits 10 n.natAbs).length ≤ maxDigits := by
  unfold Settings.integer at h
  split at h
  · cases h
    exact hdefault
  · split at h
    · cases h
      exact hdefault
    · exact length_toDigits_of_readInteger (eq_ok_of_mapError h)

theorem length_toDigits_itemsPerPage (h : settingsAround p vars a = .ok s) :
    (Nat.toDigits 10 s.itemsPerPage.natAbs).length ≤ maxDigits := by
  unfold settingsAround at h
  split at h
  · cases h
  · obtain ⟨itemsPerPage, hitems, h⟩ := exists_of_bind_eq_ok (eq_ok_of_mapError h)
    obtain ⟨minimum, -, h⟩ := exists_of_bind_eq_ok h
    obtain ⟨level, -, h⟩ := exists_of_bind_eq_ok h
    cases h
    exact length_toDigits_of_integer (by decide) hitems

/-! The arguments. -/

theorem length_toDigits_items (h : RelatedOptions.read args = .ok o)
    (hn : o.items = some (some n)) : (Nat.toDigits 10 n.natAbs).length ≤ maxDigits := by
  obtain ⟨given, -, h⟩ := exists_of_bind_eq_ok h
  obtain ⟨user, -, h⟩ := exists_of_bind_eq_ok h
  cases h
  obtain ⟨value, -, hvalue⟩ := Option.map_eq_some_iff.mp hn
  obtain ⟨v, -, hv⟩ := Option.bind_eq_some_iff.mp hvalue
  unfold integer? at hv
  cases hread : Text.readInteger v with
  | error e =>
    rw [hread] at hv
    cases hv
  | ok m =>
    rw [hread] at hv
    obtain rfl := Option.some.inj hv
    exact length_toDigits_of_readInteger hread

theorem read_of_task {rest : List String} (h : Task.read name rest = .ok (.related o)) :
    RelatedOptions.read rest = .ok o := by
  unfold Task.read at h
  split at h
  · obtain ⟨o', ho, heq⟩ := exists_of_map_eq_ok h
    cases heq
    exact ho
  · obtain ⟨o', -, heq⟩ := exists_of_map_eq_ok h
    cases heq
  · obtain ⟨o', -, heq⟩ := exists_of_map_eq_ok h
    cases heq
  · cases h

/-- The options of a command are read out of the arguments behind its name. -/
theorem exists_read_of_task (h : Invocation.read args = .ok i)
    (htask : i.task = some (.related o)) : ∃ rest, RelatedOptions.read rest = .ok o := by
  obtain ⟨given, -, h⟩ := exists_of_bind_eq_ok h
  simp only at h
  split at h
  · rename_i command rest _
    obtain ⟨task, hread, h⟩ := exists_of_bind_eq_ok h
    split at h
    · cases h
    · cases h
      obtain rfl : task = some (.related o) := htask
      obtain ⟨task, hread, hsome⟩ := exists_of_map_eq_ok hread
      obtain rfl := Option.some.inj hsome
      exact ⟨rest, read_of_task hread⟩
  · obtain ⟨task, hnone, h⟩ := exists_of_bind_eq_ok h
    cases hnone
    split at h
    · cases h
    · cases h
      cases htask

/-! The page size. -/

/-- The page size that is in force: the one asked for, or else that of the settings. Where it is
asked for without a value there is none. -/
def RelatedOptions.pageSize? (o : RelatedOptions) (s : Settings) : Option Int :=
  o.items.getD (some s.itemsPerPage)

/-- A page size in force can be read again. -/
theorem length_toDigits_pageSize (hread : Invocation.read args = .ok i)
    (htask : i.task = some (.related o)) (hs : settingsAround p vars a = .ok s)
    (hn : o.pageSize? s = some n) : (Nat.toDigits 10 n.natAbs).length ≤ maxDigits := by
  unfold RelatedOptions.pageSize? at hn
  cases hitems : o.items with
  | none =>
    obtain rfl : s.itemsPerPage = n := by simpa [hitems] using hn
    exact length_toDigits_itemsPerPage hs
  | some items =>
    obtain ⟨rest, ho⟩ := exists_read_of_task hread htask
    obtain rfl : items = some n := by simpa [hitems] using hn
    exact length_toDigits_items ho hitems

theorem eq_number_of_positiveCount (h : positiveCount limit (.int n) = .ok quota) :
    quota = .number n ∧ 0 < n := by
  have hpos := Feed.positiveCount_pos h
  simp only [positiveCount, Count.ofValue?] at h
  split at h
  · cases h
    exact ⟨rfl, hpos⟩
  · cases h

/-- The quota of a feed is the page size in force. -/
theorem exists_pageSize_of_check (hp : s.policy = .ok policy)
    (h : o.order.check policy = .ok quota) :
    ∃ n, o.pageSize? s = some n ∧ quota = .number n ∧ 0 < n := by
  obtain ⟨defaultQuota, hquota, hp⟩ := exists_of_bind_eq_ok hp
  obtain ⟨minimum, -, hp⟩ := exists_of_bind_eq_ok hp
  cases hp
  unfold Feed.Order.check at h
  split at h
  · cases h
  · cases hitems : o.items with
    | none =>
      obtain rfl : defaultQuota = quota := by
        simpa [RelatedOptions.order, hitems, Policy.resolveQuota] using h
      exact ⟨s.itemsPerPage, by simp [RelatedOptions.pageSize?, hitems],
        eq_number_of_positiveCount hquota⟩
    | some items =>
      cases items with
      | none =>
        simp [RelatedOptions.order, hitems, Policy.resolveQuota, positiveCount,
          Count.ofValue?] at h
      | some n =>
        have hcount : positiveCount .itemsPerPage (.int n) = .ok quota := by
          simpa [RelatedOptions.order, hitems, Policy.resolveQuota] using h
        exact ⟨n, by simp [RelatedOptions.pageSize?, hitems], eq_number_of_positiveCount hcount⟩

end PeopleFeed.Command
