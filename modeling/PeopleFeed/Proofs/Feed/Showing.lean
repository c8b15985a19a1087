import PeopleFeed.Proofs.Feed.Run
import PeopleFeed.Proofs.Json.Reading

/-! What the records of a run show: the public fields of the profiles that the directory answers.
A record whose fields are all texts is read back from its text. -/
namespace PeopleFeed.Feed

open PeopleFeed.Json (Value Fields Rereadable)

variable {σ τ : Type} {c : Collaborators σ} {sh : Shuffler τ} {rq : Request} {s t : State σ τ}
  {Q : String → Entity → Prop} {fields changes : Fields} {e : Entity} {r : Record}
  {digits room : Nat}

/-- Every record shows the public fields of a profile found under its target. -/
def Shows (Q : String → Entity → Prop) (rq : Request) (s : State σ τ) : Prop :=
  ∀ r ∈ s.records, ∃ e, Q r.target e ∧ e.kind = .profile ∧ r.profile = publicFields rq.fieldNames e

theorem shows_transition
    (hfind : ∀ id e, (c.respond (.find (some id)) s.env).answer = .ok (some e) → Q id e)
    (h : Transition c sh rq s t) (hs : Shows Q rq s) : Shows Q rq t := by
  cases h with
  | @emitted origin id e hst ha hk =>
    intro r hr
    rcases List.mem_append.mp hr with hr | hr
    · exact hs r hr
    · obtain rfl := List.mem_singleton.mp hr
      exact ⟨e, hfind id e ha, hk, rfl⟩
  | refused ho | passedOver ho | chosen ho => cases ho <;> exact hs
  | listed =>
    unfold State.startGroups
    split <;> exact hs
  | _ => exact hs

/-- Every record of a feed shows the public fields of a profile found under its target. `P` tells
what the collaborators keep meanwhile. -/
theorem exists_shown_of_ok {P : σ → Prop} {p : Policy} {o : Order} {fieldNames : List String}
    {fuel : Nat} {env : σ} {shuffler : τ} {result : Result}
    (hquery : ∀ criteria env, P env → P (c.query criteria env))
    (hrespond : ∀ call env, P env → P (c.respond call env).env)
    (hfind : ∀ id env e, P env → (c.respond (.find (some id)) env).answer = .ok (some e) → Q id e)
    (he : P env) (hr : (assemble c sh p fieldNames fuel o env shuffler).result = .ok result) :
    ∀ r ∈ result.records, ∃ e, Q r.target e ∧ e.kind = .profile ∧
      r.profile = publicFields fieldNames e := by
  obtain ⟨quota, hcheck⟩ := exists_check_of_ok hr
  obtain ⟨denied, -, rfl⟩ := (assemble_eq_ok_iff hcheck).1 hr
  have hstep : ∀ s t, Transition c sh (o.request quota fieldNames) s t →
      P s.env ∧ Shows Q (o.request quota fieldNames) s →
        P t.env ∧ Shows Q (o.request quota fieldNames) t := by
    rintro s t h ⟨hat, hs⟩
    exact ⟨env_transition hquery hrespond h hat,
      shows_transition (fun id e ha => hfind id s.env e hat ha) h hs⟩
  have hstart : P env ∧ Shows Q (o.request quota fieldNames)
      (State.initial env shuffler o.requester) := ⟨he, by simp [Shows, State.initial]⟩
  exact (run_induction hstep hstart fuel).2

/-! Fields of texts. -/

/-- Fields that all hold texts. -/
def HoldsTexts (fields : Fields) : Prop :=
  ∀ f ∈ fields, ∃ text, f.2 = .str text

theorem mem_of_get? {key : String} {v : Value} (h : fields.get? key = some v) :
    (key, v) ∈ fields := by
  induction fields with
  | nil => cases h
  | cons f rest ih =>
    obtain ⟨k, w⟩ := f
    by_cases hk : k = key
    · obtain rfl : w = v := by simpa [Fields.get?, hk] using h
      rw [hk]
      exact List.mem_cons_self
    · exact List.mem_cons_of_mem _ (ih (by simpa [Fields.get?, hk] using h))

theorem HoldsTexts.insert (h : HoldsTexts fields) (key text : String) :
    HoldsTexts (fields.insert key (.str text)) := by
  induction fields with
  | nil =>
    intro f hf
    obtain rfl := List.mem_singleton.mp hf
    exact ⟨text, rfl⟩
  | cons g rest ih =>
    obtain ⟨hg, hrest⟩ := List.forall_mem_cons.mp h
    unfold Fields.insert
    split
    · exact List.forall_mem_cons.mpr ⟨⟨text, rfl⟩, hrest⟩
    · exact List.forall_mem_cons.mpr ⟨hg, ih hrest⟩

theorem HoldsTexts.update (h : HoldsTexts fields) (hchanges : HoldsTexts changes) :
    HoldsTexts (fields.update changes) := by
  induction changes generalizing fields with
  | nil => exact h
  | cons f rest ih =>
    obtain ⟨⟨text, hf⟩, hrest⟩ := List.forall_mem_cons.mp hchanges
    have hinsert : HoldsTexts (fields.insert f.1 f.2) := by
      rw [hf]
      exact h.insert f.1 text
    exact ih hinsert hrest

theorem nodup_keys_insert (h : fields.keys.Nodup) (key : String) (v : Value) :
    (fields.insert key v).keys.Nodup := by
  rw [Fields.keys_insert]
  split
  · exact h
  · rename_i hnew
    exact List.nodup_append.mpr ⟨h, List.pairwise_singleton _ key, fun k hk k' hk' heq =>
      hnew (List.mem_singleton.mp hk' ▸ heq ▸ hk)⟩

theorem nodup_keys_update (h : fields.keys.Nodup) (changes : Fields) :
    (fields.update changes).keys.Nodup := by
  induction changes generalizing fields with
  | nil => exact h
  | cons f rest ih => exact ih (nodup_keys_insert h f.1 f.2)

/-- The public fields are texts where the properties are. -/
theorem holdsTexts_publicFields (h : HoldsTexts e.properties) (names : List String) :
    HoldsTexts (publicFields names e) := by
  apply List.foldlRecOn names
  · intro f hf
    obtain rfl := List.mem_singleton.mp hf
    exact ⟨e.id, rfl⟩
  · intro fields hfields name _
    cases hget : e.properties.get? name with
    | none => exact hfields
    | some v =>
      obtain ⟨text, rfl⟩ : ∃ text, v = .str text := h _ (mem_of_get? hget)
      simp only
      split
      · exact hfields.insert name text
      · exact hfields

/-- A record of texts is an object within an object. -/
theorem rereadable_toValue (h : HoldsTexts r.profile) :
    Rereadable digits (room + 2) r.toValue := by
  have htexts : HoldsTexts (Fields.ofEntries r.profile) :=
    HoldsTexts.update (fun _ hf => nomatch hf) h
  have hprofile : Rereadable digits (room + 1) (.obj (Fields.ofEntries r.profile)) := by
    refine .obj (@nodup_keys_update [] List.nodup_nil r.profile) ?_
    intro f hf
    obtain ⟨text, hf⟩ := htexts f hf
    rw [hf]
    exact .str room text
  have hkeys : ["target", "profile"].Nodup := by decide
  refine .obj hkeys ?_
  intro f hf
  rcases List.mem_cons.mp hf with rfl | hf
  · exact .str _ r.target
  · obtain rfl := List.mem_singleton.mp hf
    exact hprofile

end PeopleFeed.Feed
