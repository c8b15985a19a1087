import PeopleFeed.Proofs.Feed.Relisting
import PeopleFeed.Proofs.Shuffle.Oblivious

/-! In which order groups and their members are listed shows nowhere in a feed. The pool is sorted
before it is shuffled, so that the same people are drawn, if the shuffler does not look at the
groups that it has shuffled before. -/
namespace PeopleFeed.Feed

variable {σ σ' τ : Type} {c : Collaborators σ} {c' : Collaborators σ'} {sh : Shuffler τ}
  {rq : Request} {w w' : World} {At : σ → Ahead → Prop} {At' : σ' → Ahead → Prop} {ahead : Ahead}
  {s : State σ τ} {s' : State σ' τ} {R : σ → σ' → Prop} {shuffler : τ} {env : σ} {env' : σ'}

/-- Two runs that are about to draw from the same pool with one shuffler draw the same people, if it
is oblivious: both have shuffled as many groups before. -/
theorem Gathered.beside_step (hsh : sh.IsOblivious)
    (hg : Gathered R sh sh shuffler shuffler s s') :
    Beside R (step c sh rq s) (step c' sh rq s') := by
  obtain ⟨principals, principals', hperm, hshuffler, hshuffler'⟩ := hg.shuffled
  have hsame : s.shuffler = s'.shuffler := by
    rw [hshuffler, hshuffler', hsh shuffler _ _ hperm.length_eq]
  have habreast : Abreast R s s' := ⟨hg.beside, hsame⟩
  rw [step_of_gathered c sh rq hg.stage,
    step_of_gathered c' sh rq (hg.beside.stage.symm.trans hg.stage)]
  exact (habreast.draw sh).toBeside

section

variable (hsh : sh.IsOblivious) (h : Reordered w w' rq.requester) (hw : Plays c w At)
  (hw' : Plays c' w' At')

include hsh h hw hw'

/-- From the draw on the two runs are in the same place. -/
theorem Gathered.conclude_eq
    (hg : Gathered (SameAhead At At') sh sh shuffler shuffler s s') (p : Policy) (quota : Count)
    (n : Nat) :
    conclude p quota (run c sh rq n s) = conclude p quota (run c' sh rq n s') := by
  cases n with
  | zero => exact hg.beside.conclude p quota
  | succ n =>
    have hfilling : (step c sh rq s).stage.isFilling = true := by
      rw [step_of_gathered c sh rq hg.stage]
      rfl
    have hb : Beside (SameAhead At At') (step c sh rq s) (step c' sh rq s') := hg.beside_step hsh
    have hrun := beside_run (n := n) h hw hw' sh sh hb fun m _ =>
      Stage.isPooling_of_isFilling (filling_run c sh rq hfilling m).1
    rw [run_succ, run_succ]
    exact hrun.conclude p quota

/-- What comes of two runs with one shuffler is the same after any number of steps. -/
theorem conclude_eq_of_reordered (henv : SameAhead At At' env env') (shuffler : τ) (p : Policy)
    (quota : Count) (n : Nat) :
    conclude p quota (run c sh rq n (.initial env shuffler rq.requester)) =
      conclude p quota (run c' sh rq n (.initial env' shuffler rq.requester)) := by
  rcases beside_or_gathered h hw hw' sh sh henv shuffler shuffler with hb | ⟨m, hg⟩
  · exact (hb n).conclude p quota
  · rcases Nat.le_total n m with hn | hn
    · -- As long as the groups are pooled nothing comes of either run.
      have hrunning : ∀ stage, stage = Stage.grouping [] → stage.isHalted = false := by
        rintro _ rfl
        rfl
      have hs := isHalted_of_le (hrunning _ hg.stage) hn
      have hs' := isHalted_of_le (hrunning _ (hg.beside.stage.symm.trans hg.stage)) hn
      rw [conclude_of_not_halted hs, conclude_of_not_halted hs']
    · obtain ⟨k, rfl⟩ := Nat.exists_eq_add_of_le hn
      rw [run_add, run_add]
      exact hg.conclude_eq hsh h hw hw' p quota k

end

/-- A choir whose groups and members are listed in some way. Nobody may see Gus. -/
def listedChoir (principals members : List (Option String)) : World where
  stream _ n := .ok choirStream[n]?
  answer
    | .connected _ => .ok ["cat"]
    | .pull => .ok none
    | .find id =>
      if id = some "gus" then .error (.denial (.reported "hidden")) else .ok (choir.find id)
    | .principals _ => .ok principals
    | .members _ => .ok members

/-- What becomes of Ann's order where her choir is listed so. -/
def listedOutcome (principals members : List (Option String)) : Outcome Ahead Shuffler.Order :=
  assemble (listedChoir principals members).collaborators .ofOrder .standard publicFieldNames 60
    ⟨"ann", [], none⟩ (fun _ => .ok none) .rotate

theorem listedOutcome_eve :
    (listedOutcome [none, some "choir"]
      [some "eve", none, some "gus", some "bob", some "dan"]).result = .ok
      { requester := "ann"
        quota := .number 25
        records := [choirRecord "bob", choirRecord "dan", choirRecord "eve"]
        states := [.consumingPrimary, .consumingFallback, .done]
        denied := some (.reported "hidden")
        shortfall := true } := by
  cbv

theorem reordered_listedChoir {members members' : List (Option String)}
    (hmembers : ∀ name, name ∈ State.namesIn members ↔ name ∈ State.namesIn members') :
    Reordered (listedChoir [none, some "choir"] members)
      (listedChoir [some "choir", none] members') "ann" where
  stream := rfl
  connected := rfl
  find _ := rfl
  principals e _ _ := by
    refine ⟨_, _, rfl, rfl, .swap .., fun principal hp => ?_⟩
    rcases List.mem_pair.1 hp with rfl | rfl <;> exact ⟨_, rfl⟩
  members _ := ⟨members, members', rfl, rfl, hmembers⟩

/-- Two directories that list the requester's groups in different orders, and their members besides
with repetitions and gaps, lead to the same feed or to the same failure, if the shuffler does not
look at what it shuffles. -/
theorem result_eq_of_reordered {o : Order} (h : Reordered w w' o.requester) (hw : Plays c w At)
    (hw' : Plays c' w' At') (he : At env ahead) (he' : At' env' ahead) {sh : Shuffler τ}
    (hsh : sh.IsOblivious) (p : Policy) (fieldNames : List String) (fuel : Nat) (shuffler : τ) :
    (assemble c sh p fieldNames fuel o env shuffler).result =
      (assemble c' sh p fieldNames fuel o env' shuffler).result := by
  refine result_assemble_congr fun quota _ => ?_
  have hrq : Reordered w w' (o.request quota fieldNames).requester := h
  exact conclude_eq_of_reordered hsh hrq hw hw' ⟨ahead, he, he'⟩ shuffler p quota fuel

/-- Gus and Eve have changed places, Dan is listed twice and nobody once more. Ann is shown Bob, Dan
and Eve, and then is denied Gus. -/
theorem result_eq_of_reordered_choir :
    Reordered (listedChoir [none, some "choir"]
        [some "eve", none, some "gus", some "bob", some "dan"])
      (listedChoir [some "choir", none]
        [some "dan", some "gus", some "", some "bob", none, some "dan", some "eve"]) "ann" ∧
      Shuffler.ofOrder.IsOblivious ∧
      ∃ r, (listedOutcome [some "choir", none]
          [some "dan", some "gus", some "", some "bob", none, some "dan", some "eve"]).result =
            .ok r ∧
        r.targets = ["bob", "dan", "eve"] ∧ r.denied = some (.reported "hidden") := by
  have h : Reordered (listedChoir [none, some "choir"]
      [some "eve", none, some "gus", some "bob", some "dan"]) (listedChoir [some "choir", none]
      [some "dan", some "gus", some "", some "bob", none, some "dan", some "eve"]) "ann" := by
    refine reordered_listedChoir fun name => ?_
    simp only [State.namesIn]
    simp
    tauto
  have hresult : (listedOutcome [none, some "choir"]
        [some "eve", none, some "gus", some "bob", some "dan"]).result =
      (listedOutcome [some "choir", none]
        [some "dan", some "gus", some "", some "bob", none, some "dan", some "eve"]).result :=
    result_eq_of_reordered (o := ⟨"ann", [], none⟩) h (World.plays _) (World.plays _) rfl rfl
      Shuffler.isOblivious_ofOrder .standard publicFieldNames 60 .rotate
  exact ⟨h, Shuffler.isOblivious_ofOrder, _, hresult.symm.trans listedOutcome_eve, rfl, rfl⟩

end PeopleFeed.Feed
