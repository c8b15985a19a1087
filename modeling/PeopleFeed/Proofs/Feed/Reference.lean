import PeopleFeed.Proofs.Feed.Pool
import PeopleFeed.Proofs.Feed.Safety
import Mathlib.Data.List.ReduceOption

/-! What a feed holds when nothing fails, told without a run: the people found on the stream, each
where found first, and if these are too few, people of the requester's groups as they are drawn. -/
namespace PeopleFeed.Feed

/-- The ids that the results of a stream point at. -/
def pointedAt (stream : List Search.Candidate) : List String :=
  stream.filterMap fun candidate =>
    match candidate.entityId with
    | .ok id => id
    | .error _ => none

namespace Register

/-- Whether an id stands for a person. -/
def isPerson (d : Register) (id : String) : Bool :=
  (d.find (some id)).any (·.kind = .profile)

/-- Whether somebody may be shown to a requester who has connections. -/
def mayShow (d : Register) (requester : String) (connected : List String) (id : String) : Bool :=
  id != requester && !connected.contains id && d.isPerson id

/-- The members of a principal that is a group, without the gaps in their list. -/
def groupMembers (d : Register) (principal : Option String) : List String :=
  match d.find principal with
  | some ⟨.group, id, _⟩ => (d.members id).reduceOption.filter (· ≠ "")
  | _ => []

/-- Everybody in the groups of a person. -/
def mates (d : Register) (profile : String) : Finset String :=
  ((d.principals profile).flatMap d.groupMembers).toFinset

/-- The people found on a stream, each where found first. -/
def found (d : Register) (requester : String) (connected : List String)
    (stream : List Search.Candidate) : List String :=
  ((pointedAt stream).filter (d.mayShow requester connected)).eraseDups

/-- The people drawn from the groups, in the order in which they are drawn. The groups are
shuffled before the people. -/
def drawn {τ : Type} (d : Register) (sh : Shuffler τ) (shuffler : τ) (profile : String) :
    List String :=
  (sh.shuffle (sh.shuffle shuffler (d.principals profile)).2 (d.mates profile).sort).1

/-- Whom a feed shows. -/
def feedTargets {τ : Type} (d : Register) (sh : Shuffler τ) (shuffler : τ)
    (requester profile : String) (connected : List String) (stream : List Search.Candidate)
    (quota : Nat) : List String :=
  let found := d.found requester connected stream
  if quota ≤ found.length then found.take quota
  else
    found ++ ((d.drawn sh shuffler profile).filter fun id =>
      d.mayShow requester connected id && !found.contains id).take (quota - found.length)

/-- Those among some ids who are people and may still be emitted, each where met first. -/
def newcomers (d : Register) (l : Ledger) (ids : List String) : List String :=
  (ids.filter fun id => l.isEligible id && d.isPerson id).eraseDups

variable {d : Register} {l : Ledger} {id : String} {ids : List String}

theorem mem_groupMembers {principal : Option String} {name : String} :
    name ∈ d.groupMembers principal ↔
      ∃ e, d.find principal = some e ∧ e.kind = .group ∧
        name ∈ State.namesIn (d.members e.id) := by
  unfold groupMembers
  rcases hf : d.find principal with _ | ⟨_ | _, group, properties⟩ <;>
    simp [State.mem_namesIn, List.reduceOption_mem_iff]

section

variable {τ : Type} (d : Register) (sh : Shuffler τ) (shuffler : τ) (profile : String)

theorem drawn_perm : (d.drawn sh shuffler profile).Perm (d.mates profile).sort :=
  sh.perm ..

theorem nodup_drawn : (d.drawn sh shuffler profile).Nodup :=
  (d.drawn_perm sh shuffler profile).nodup_iff.2 (Finset.sort_nodup ..)

theorem mem_drawn {k : String} :
    k ∈ d.drawn sh shuffler profile ↔ ∃ g ∈ d.principals profile, k ∈ d.groupMembers g := by
  rw [(d.drawn_perm sh shuffler profile).mem_iff]
  simp [mates]

theorem empty_notMem_groupMembers (principal : Option String) :
    "" ∉ d.groupMembers principal := by
  unfold groupMembers
  split <;> simp

theorem empty_notMem_drawn : "" ∉ d.drawn sh shuffler profile := by
  rw [mem_drawn]
  rintro ⟨g, -, hg⟩
  exact d.empty_notMem_groupMembers g hg

theorem drawn_eq_nil (h : d.principals profile = []) : d.drawn sh shuffler profile = [] := by
  apply List.eq_nil_iff_forall_not_mem.2
  intro k hk
  obtain ⟨g, hg, -⟩ := (d.mem_drawn sh shuffler profile).1 hk
  simp [h] at hg

end

theorem newcomers_cons_of_neg (h : (l.isEligible id && d.isPerson id) = false) :
    d.newcomers l (id :: ids) = d.newcomers l ids := by
  simp [newcomers, h]

theorem isEligible_mark (h : l.isEligible id = true) (k : String) :
    (l.mark id).isEligible k = (l.isEligible k && k != id) := by
  rw [Ledger.mark_of_isEligible h, Bool.eq_iff_iff]
  simp only [Ledger.isEligible_iff, Bool.and_eq_true, bne_iff_ne, List.mem_append,
    List.mem_singleton, not_or]
  tauto

/-- Emitting somebody changes nothing for the others. -/
theorem filter_isEligible_mark (h : l.isEligible id = true) (hid : id ∉ ids) :
    (ids.filter fun k => (l.mark id).isEligible k && d.isPerson k) =
      ids.filter fun k => l.isEligible k && d.isPerson k := by
  apply List.filter_congr
  intro k hk
  have hne : (k != id) = true := bne_iff_ne.2 fun heq => hid (heq ▸ hk)
  rw [isEligible_mark h, hne, Bool.and_true]

theorem newcomers_cons_of_pos (he : l.isEligible id = true) (hp : d.isPerson id = true) :
    d.newcomers l (id :: ids) = id :: d.newcomers (l.mark id) ids := by
  unfold newcomers
  rw [List.filter_cons_of_pos (by simp [he, hp]), List.eraseDups_cons, List.filter_filter]
  congr 2
  apply List.filter_congr
  intro k _
  rw [isEligible_mark he, Bool.and_right_comm, Bool.and_comm]
  rfl

theorem found_eq_newcomers (d : Register) (requester : String) (connected : List String)
    (stream : List Search.Candidate) :
    d.found requester connected stream =
      d.newcomers ⟨requester, connected, []⟩ (pointedAt stream) := by
  unfold found newcomers
  congr 1
  apply List.filter_congr
  intro k _
  simp [mayShow, Ledger.isEligible, isEligible]

end Register

end PeopleFeed.Feed
