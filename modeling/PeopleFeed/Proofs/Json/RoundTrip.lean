import PeopleFeed.Proofs.Json.Floats

/-! Reading is the inverse of printing: a value whose objects have distinct keys is read back from
its text by every reader that takes numbers as long and brackets as deep as it has them. -/
namespace PeopleFeed.Json

open PeopleFeed.Decimal (Double)

variable {st : Text.Standins} {codec : Codec} {digits room : Nat} {leaf : Value → Nat}
  {bracket : Nat} {v w : Value} {items : List Value} {fields : Fields} {p q : Value → Prop}

/-! Properties of values. -/

/-- The values right inside of a value. -/
def Value.inner : Value → List Value
  | .arr items => items
  | .obj fields => fields.map Prod.snd
  | _ => []

/-- A property of a value and of all the values inside of it. -/
inductive Value.Throughout (p : Value → Prop) : Value → Prop
  | intro {v : Value} (here : p v) (inside : ∀ w ∈ v.inner, Throughout p w) : Throughout p v

theorem throughout_iff : v.Throughout p ↔ p v ∧ ∀ w ∈ v.inner, w.Throughout p := by
  constructor
  · rintro ⟨here, inside⟩
    exact ⟨here, inside⟩
  · rintro ⟨here, inside⟩
    exact .intro here inside

theorem Value.Throughout.here (h : v.Throughout p) : p v :=
  (throughout_iff.mp h).1

/-- Of a value with nothing inside there is but the value. -/
theorem throughout_of_inner (h : v.inner = []) : v.Throughout p ↔ p v := by
  rw [throughout_iff, h]
  simp

@[simp] theorem throughout_null : Value.null.Throughout p ↔ p .null :=
  throughout_of_inner rfl

@[simp] theorem throughout_bool {b : Bool} : (Value.bool b).Throughout p ↔ p (.bool b) :=
  throughout_of_inner rfl

@[simp] theorem throughout_int {n : Int} : (Value.int n).Throughout p ↔ p (.int n) :=
  throughout_of_inner rfl

@[simp] theorem throughout_float {x : Double} : (Value.float x).Throughout p ↔ p (.float x) :=
  throughout_of_inner rfl

@[simp] theorem throughout_str {s : String} : (Value.str s).Throughout p ↔ p (.str s) :=
  throughout_of_inner rfl

@[simp] theorem throughout_arr :
    (Value.arr items).Throughout p ↔ p (.arr items) ∧ ∀ v ∈ items, v.Throughout p := by
  rw [throughout_iff, Value.inner]

@[simp] theorem throughout_obj :
    (Value.obj fields).Throughout p ↔ p (.obj fields) ∧ ∀ f ∈ fields, f.2.Throughout p := by
  rw [throughout_iff, Value.inner, List.forall_mem_map]

theorem Value.Throughout.mono (hpq : ∀ v, p v → q v) (h : v.Throughout p) : v.Throughout q := by
  induction h with
  | intro here _ ih => exact .intro (hpq _ here) ih

/-- A value that is an object has distinct keys. -/
def Value.IsKeyed (v : Value) : Prop :=
  ∀ fields : Fields, v = .obj fields → fields.keys.Nodup

/-- A value is no floating point number. -/
def Value.IsNoFloat (v : Value) : Prop :=
  ∀ x, v ≠ .float x

/-! Measures of values. -/

mutual

/-- The greatest of the measures of what a value consists of, and something more for every bracket
around it. -/
def Value.measure (leaf : Value → Nat) (bracket : Nat) : Value → Nat
  | .arr items => measureItems leaf bracket items + bracket
  | .obj fields => measureFields leaf bracket fields + bracket
  | v => leaf v

/-- The greatest of the measures of items. -/
def measureItems (leaf : Value → Nat) (bracket : Nat) : List Value → Nat
  | [] => 0
  | v :: rest => max (v.measure leaf bracket) (measureItems leaf bracket rest)

/-- The greatest of the measures of the values of entries. -/
def measureFields (leaf : Value → Nat) (bracket : Nat) : List (String × Value) → Nat
  | [] => 0
  | (_, v) :: rest => max (v.measure leaf bracket) (measureFields leaf bracket rest)

end

/-- The digits of a value that is a whole number. -/
def Value.digitCount : Value → Nat
  | .int n => (Nat.toDigits 10 n.natAbs).length
  | _ => 0

/-- The most digits of a whole number in a value. -/
def Value.longestNumber (v : Value) : Nat :=
  v.measure Value.digitCount 0

/-- The most brackets of a value inside of each other. -/
def Value.nesting (v : Value) : Nat :=
  v.measure (fun _ => 0) 1

theorem measure_le_measureItems (h : v ∈ items) :
    v.measure leaf bracket ≤ measureItems leaf bracket items := by
  induction items with
  | nil => cases h
  | cons w rest ih =>
    unfold measureItems
    rcases List.mem_cons.mp h with rfl | h
    · exact Nat.le_max_left _ _
    · exact (ih h).trans (Nat.le_max_right _ _)

theorem measure_le_measureFields {f : String × Value} (h : f ∈ fields) :
    f.2.measure leaf bracket ≤ measureFields leaf bracket fields := by
  induction fields with
  | nil => cases h
  | cons g rest ih =>
    obtain ⟨k, w⟩ := g
    unfold measureFields
    rcases List.mem_cons.mp h with rfl | h
    · exact Nat.le_max_left _ _
    · exact (ih h).trans (Nat.le_max_right _ _)

/-- A value has no number that is too long and no bracket inside of too many. -/
structure Codec.Fits (codec : Codec) (v : Value) : Prop where
  digits : v.longestNumber ≤ codec.digits
  room : v.nesting ≤ codec.room

section Obstacles

variable (digits : Nat)

mutual

/-- A writer comes upon nothing exactly in the values that fit. -/
theorem obstacle?_eq_none_iff : ∀ (room : Nat) (v : Value),
    obstacle? digits room v = none ↔ v.longestNumber ≤ digits ∧ v.nesting ≤ room
  | _, .null | _, .bool _ | _, .float _ | _, .str _ => by
    simp [obstacle?, Value.longestNumber, Value.nesting, Value.measure, Value.digitCount]
  | _, .int n => by
    simp [obstacle?, Value.longestNumber, Value.nesting, Value.measure, Value.digitCount,
      isTooLong]
  | 0, .arr _ | 0, .obj _ => by simp [obstacle?, Value.nesting, Value.measure]
  | room + 1, .arr items => by
    rw [obstacle?, itemsObstacle?_eq_none_iff room items]
    simp [Value.longestNumber, Value.nesting, Value.measure]
  | room + 1, .obj fields => by
    rw [obstacle?, fieldsObstacle?_eq_none_iff room fields]
    simp [Value.longestNumber, Value.nesting, Value.measure]

theorem itemsObstacle?_eq_none_iff : ∀ (room : Nat) (items : List Value),
    itemsObstacle? digits room items = none ↔
      measureItems Value.digitCount 0 items ≤ digits ∧ measureItems (fun _ => 0) 1 items ≤ room
  | _, [] => by simp [itemsObstacle?, measureItems]
  | room, v :: rest => by
    rw [itemsObstacle?, Option.or_eq_none_iff, obstacle?_eq_none_iff room v,
      itemsObstacle?_eq_none_iff room rest]
    simp only [measureItems, Value.longestNumber, Value.nesting]
    omega

theorem fieldsObstacle?_eq_none_iff : ∀ (room : Nat) (fields : Fields),
    fieldsObstacle? digits room fields = none ↔
      measureFields Value.digitCount 0 fields ≤ digits ∧
        measureFields (fun _ => 0) 1 fields ≤ room
  | _, [] => by simp [fieldsObstacle?, measureFields]
  | room, (_, v) :: rest => by
    rw [fieldsObstacle?, Option.or_eq_none_iff, obstacle?_eq_none_iff room v,
      fieldsObstacle?_eq_none_iff room rest]
    simp only [measureFields, Value.longestNumber, Value.nesting]
    omega

end

end Obstacles

/-- What fits is written, and nothing else is. -/
theorem write_eq_ok_iff {style : Style} {s : String} :
    v.write codec style = .ok s ↔ codec.Fits v ∧ v.toJson style = s := by
  cases h : obstacle? codec.digits codec.room v with
  | none =>
    obtain ⟨hdigits, hroom⟩ := (obstacle?_eq_none_iff _ _ _).mp h
    have hfits : codec.Fits v := ⟨hdigits, hroom⟩
    simp [Value.write, h, hfits]
  | some e =>
    have hfits : ¬codec.Fits v := by
      intro hfits
      rw [(obstacle?_eq_none_iff _ _ _).mpr ⟨hfits.digits, hfits.room⟩] at h
      cases h
    simp [Value.write, h, hfits]

/-! Values as a text tells them. -/

mutual

/-- A value as its text tells it: of the floating point numbers that are none there is but one. -/
def Value.quiet : Value → Value
  | .float x => .float (quietFloat x)
  | .arr items => .arr (quietItems items)
  | .obj fields => .obj (quietFields fields)
  | v => v

/-- Items as their texts tell them. -/
def quietItems : List Value → List Value
  | [] => []
  | v :: rest => v.quiet :: quietItems rest

/-- Entries as their texts tell them. -/
def quietFields : List (String × Value) → List (String × Value)
  | [] => []
  | (k, v) :: rest => (k, v.quiet) :: quietFields rest

end

theorem quietItems_eq (items : List Value) : quietItems items = items.map Value.quiet := by
  induction items with
  | nil => rfl
  | cons v rest ih => rw [quietItems, ih, List.map_cons]

theorem quietFields_eq (fields : Fields) :
    quietFields fields = fields.map fun f => (f.1, f.2.quiet) := by
  induction fields with
  | nil => rfl
  | cons f rest ih => rw [quietFields, ih, List.map_cons]

/-- Values without floating point numbers are told as they are. -/
theorem quiet_eq_self (h : v.Throughout Value.IsNoFloat) : v.quiet = v := by
  induction h with
  | @intro v here _ ih =>
    cases v with
    | float x => exact absurd rfl (here x)
    | arr items =>
      have hitems : items.map Value.quiet = items :=
        (List.map_congr_left ih).trans (List.map_id' items)
      rw [Value.quiet, quietItems_eq, hitems]
    | obj fields =>
      have hfields : (fields.map fun f => (f.1, f.2.quiet)) = fields :=
        (List.map_congr_left fun f hf => congrArg (Prod.mk f.1)
          (ih f.2 (List.mem_map_of_mem hf))).trans (List.map_id' fields)
      rw [Value.quiet, quietFields_eq, hfields]
    | _ => rfl

/-! Reading back. -/

/-- A value is read back from its text. -/
theorem writes_quiet (h : v.Throughout Value.IsKeyed) (hdigits : v.longestNumber ≤ digits)
    (hroom : v.nesting ≤ room) : Writes st digits room (print .plain v) v.quiet := by
  induction h generalizing room with
  | @intro v here _ ih =>
    cases v with
    | null => exact writes_null
    | bool b => exact writes_bool b
    | int n => exact writes_int hdigits
    | float x => exact writes_float x
    | str s => exact writes_str s
    | arr items =>
      obtain ⟨room, rfl⟩ : ∃ r, room = r + 1 :=
        ⟨room - 1, by simp only [Value.nesting, Value.measure] at hroom; omega⟩
      rw [Value.quiet, quietItems_eq]
      apply writes_arr
      intro w hw
      exact ih w hw ((measure_le_measureItems hw).trans hdigits)
        ((measure_le_measureItems hw).trans (Nat.le_of_succ_le_succ hroom))
    | obj fields =>
      obtain ⟨room, rfl⟩ : ∃ r, room = r + 1 :=
        ⟨room - 1, by simp only [Value.nesting, Value.measure] at hroom; omega⟩
      rw [Value.quiet, quietFields_eq]
      apply writes_obj (here fields rfl)
      intro f hf
      exact ih f.2 (List.mem_map_of_mem hf) ((measure_le_measureFields hf).trans hdigits)
        ((measure_le_measureFields hf).trans (Nat.le_of_succ_le_succ hroom))

/-- The text of a value on its own is a document of the value. -/
theorem readText_toJson (h : v.Throughout Value.IsKeyed) (hfits : codec.Fits v) :
    readText codec (v.toJson .plain).toList = .ok v.quiet := by
  rw [Value.toJson, String.toList_ofList, ← List.append_nil (print .plain v)]
  exact readText_of_writes (writes_quiet h hfits.digits hfits.room) List.all_nil

end PeopleFeed.Json
