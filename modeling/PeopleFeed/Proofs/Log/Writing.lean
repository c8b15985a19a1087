import PeopleFeed.Log.Note
import PeopleFeed.Proofs.Json.Reading

/-! Notes that can be written: those whose context has texts and short numbers in it. -/
namespace PeopleFeed

variable {codec : Json.Codec} {digits room : Nat} {n : Int} {s : String} {v : Json.Value}
  {fields : Json.Fields} {f : String × Json.Value}

namespace Json

/-- A value is a text, or a whole number with no more than so many digits. -/
inductive IsShort (digits : Nat) : Value → Prop
  | str (s : String) : IsShort digits (.str s)
  | int {n : Int} (h : (Nat.toDigits 10 n.natAbs).length ≤ digits) : IsShort digits (.int n)

theorem IsShort.sortKeys_eq (h : IsShort digits v) : sortKeys v = v := by
  cases h <;> rfl

theorem IsShort.obstacle?_eq (h : IsShort digits v) (room : Nat) :
    obstacle? digits room v = none := by
  cases h with
  | str s => cases room <;> rfl
  | @int n h =>
    have hshort : isTooLong digits n = false := by simpa [isTooLong] using h
    cases room <;> simp [obstacle?, hshort]

theorem sortFields_eq (h : ∀ f ∈ fields, IsShort digits f.2) : sortFields fields = fields := by
  induction fields with
  | nil => rfl
  | cons f rest ih =>
    obtain ⟨hf, hrest⟩ := List.forall_mem_cons.mp h
    rw [sortFields, ih hrest, hf.sortKeys_eq]

/-- An object of short values takes one bracket. -/
theorem obstacle?_sortKeys (h : ∀ f ∈ fields, IsShort digits f.2) (room : Nat) :
    obstacle? digits (room + 1) (sortKeys (.obj fields)) = none := by
  rw [sortKeys, sortFields_eq h, obstacle?, fieldsObstacle?_eq_findSome?,
    List.findSome?_eq_none_iff]
  intro f hf
  exact (h f ((List.mergeSort_perm ..).mem_iff.mp hf)).obstacle?_eq room

end Json

/-- Where there is room for one bracket a note with a short context can be written. -/
theorem Log.error?_eq_none {note : Note} (hroom : 0 < codec.room)
    (h : ∀ f ∈ note.context, Json.IsShort codec.digits f.2) : note.error? codec = none := by
  obtain ⟨room, hsucc⟩ := Nat.exists_eq_succ_of_ne_zero (Nat.ne_of_gt hroom)
  have hwrites : (Json.sortKeys (.obj note.context)).write codec (.ascii codec.standins) =
      .ok ((Json.sortKeys (.obj note.context)).toJson (.ascii codec.standins)) := by
    rw [Json.Value.write, hsucc, Json.obstacle?_sortKeys h]
  unfold Note.error? Note.text
  rw [hwrites]
  cases note.context.isEmpty <;> rfl

end PeopleFeed
