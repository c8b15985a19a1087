import PeopleFeed.Feed.Machine
import Mathlib.Data.Finset.Sort
import Mathlib.Data.String.Basic

/-! The pool of a feed is a set: nobody is in it twice, and sorted it depends on nothing but who is
in it. -/
namespace PeopleFeed.Feed.State

variable {pool names : List String} {listing : List (Option String)} {name : String}

theorem mem_namesIn : name ∈ namesIn listing ↔ some name ∈ listing ∧ name ≠ "" := by
  simp only [namesIn, List.mem_filterMap]
  constructor
  · rintro ⟨id, hid, h⟩
    split at h
    · cases h
    · subst h
      exact ⟨hid, by simp_all⟩
  · rintro ⟨hid, hne⟩
    exact ⟨some name, hid, by simp [hne]⟩

theorem mem_pooled : name ∈ pooled pool names ↔ name ∈ pool ∨ name ∈ names := by
  induction names generalizing pool with
  | nil => simp [pooled]
  | cons k names ih =>
    have h : name ∈ pooled (pool.insert k) names ↔ _ := ih
    rw [show pooled pool (k :: names) = pooled (pool.insert k) names from rfl, h,
      List.mem_insert_iff, List.mem_cons]
    tauto

theorem nodup_pooled (h : pool.Nodup) : (pooled pool names).Nodup := by
  induction names generalizing pool with
  | nil => exact h
  | cons k names ih => exact ih (h.insert)

theorem pooled_perm {pool' : List String} (h : pool.Perm pool') :
    (pooled pool names).Perm (pooled pool' names) := by
  induction names generalizing pool pool' with
  | nil => exact h
  | cons k names ih => exact ih (h.insert k)

theorem sortedPool_perm (pool : List String) : (sortedPool pool).Perm pool :=
  List.mergeSort_perm ..

theorem pairwise_sortedPool (pool : List String) : (sortedPool pool).Pairwise (· ≤ ·) := by
  have h : (sortedPool pool).Pairwise fun a b => decide (a ≤ b) = true := by
    apply List.pairwise_mergeSort
    · intro a b k hab hbk
      simp only [decide_eq_true_eq] at hab hbk ⊢
      exact hab.trans hbk
    · intro a b
      simpa using le_total a b
  exact h.imp fun hab => by simpa using hab

/-- In which order a pool was filled does not show once it is sorted. -/
theorem sortedPool_congr {pool' : List String} (h : pool.Perm pool') :
    sortedPool pool = sortedPool pool' := by
  have hperm : (sortedPool pool).Perm (sortedPool pool') :=
    ((sortedPool_perm pool).trans h).trans (sortedPool_perm pool').symm
  exact hperm.eq_of_pairwise' (pairwise_sortedPool pool) (pairwise_sortedPool pool')

/-- The sorted pool is the sorted set of its members. -/
theorem sortedPool_eq_sort {M : Finset String} (h : pool.Nodup) (hM : ∀ k, k ∈ pool ↔ k ∈ M) :
    sortedPool pool = M.sort := by
  have hset : (sortedPool pool).toFinset = M := by
    ext k
    rw [List.mem_toFinset, (sortedPool_perm pool).mem_iff, hM]
  rw [← hset]
  exact ((List.toFinset_sort _ ((sortedPool_perm pool).nodup_iff.2 h)).2
    (pairwise_sortedPool pool)).symm

end PeopleFeed.Feed.State
