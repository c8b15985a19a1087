import PeopleFeed.Decimal.Double

/-! JSON values. Whole and floating point numbers are kept apart, and an object keeps the order of
its keys. -/
namespace PeopleFeed.Json

open PeopleFeed.Decimal (Double)

/-- A JSON value. -/
inductive Value
  | null
  | bool (b : Bool)
  | int (n : Int)
  | float (x : Double)
  | str (s : String)
  | arr (items : List Value)
  | obj (fields : List (String × Value))
  deriving Inhabited, Repr

/-- The entries of an object in their order. -/
abbrev Fields := List (String × Value)

namespace Fields

/-- The value under a key. -/
def get? (key : String) : Fields → Option Value
  | [] => none
  | (k, v) :: rest => if k = key then some v else get? key rest

/-- The fields with a key set: a key that is there keeps its place, a new one comes last. -/
def insert (key : String) (value : Value) : Fields → Fields
  | [] => [(key, value)]
  | (k, v) :: rest => if k = key then (k, value) :: rest else (k, v) :: insert key value rest

/-- The fields of the first with those of the second set in their order. -/
def update (fields : Fields) (changes : Fields) : Fields :=
  changes.foldl (fun acc f => acc.insert f.1 f.2) fields

/-- A list of entries as an object has it: each key at its first place with its last value. -/
def ofEntries (entries : List (String × Value)) : Fields :=
  update [] entries

def keys (fields : Fields) : List String :=
  List.map Prod.fst fields

theorem get?_insert (key k : String) (value : Value) (fields : Fields) :
    (insert key value fields).get? k = if k = key then some value else fields.get? k := by
  induction fields with
  | nil => simp [insert, get?, eq_comm]
  | cons f rest ih =>
    obtain ⟨a, v⟩ := f
    by_cases ha : a = key
    · by_cases hk : k = key
      · simp [insert, get?, ha, hk]
      · simp [insert, get?, ha, hk, Ne.symm hk]
    · by_cases hk : a = k
      · subst hk
        simp [insert, get?, ha]
      · simp [insert, get?, ha, hk, ih]

theorem keys_insert (key : String) (value : Value) (fields : Fields) :
    (insert key value fields).keys =
      if key ∈ fields.keys then fields.keys else fields.keys ++ [key] := by
  induction fields with
  | nil => simp [insert, keys]
  | cons f rest ih =>
    obtain ⟨a, v⟩ := f
    by_cases ha : a = key
    · simp [insert, keys, ha]
    · simp only [insert, ha, if_false, keys, List.map_cons, List.mem_cons, Ne.symm ha, false_or]
      simp only [keys] at ih
      by_cases hk : key ∈ List.map Prod.fst rest <;> simp [ih, hk]

theorem insert_of_notMem {key : String} {fields : Fields} (value : Value)
    (h : key ∉ fields.keys) : insert key value fields = fields ++ [(key, value)] := by
  induction fields with
  | nil => rfl
  | cons f rest ih =>
    obtain ⟨k, v⟩ := f
    simp only [keys, List.map_cons, List.mem_cons, not_or] at h
    simp [insert, Ne.symm h.1, ih h.2]

theorem update_of_nodup {fields changes : Fields} (h : (keys (fields ++ changes)).Nodup) :
    fields.update changes = fields ++ changes := by
  induction changes generalizing fields with
  | nil => simp [update]
  | cons f rest ih =>
    have hnew : f.1 ∉ fields.keys := by
      simp only [keys, List.map_append, List.map_cons, List.nodup_append, List.mem_cons] at h ⊢
      exact fun hmem => h.2.2 _ hmem _ (.inl rfl) rfl
    have hinsert : fields.update (f :: rest) = (fields ++ [f]).update rest := by
      rw [update, List.foldl_cons, insert_of_notMem _ hnew]
      rfl
    rw [hinsert, ih (by simpa using h)]
    simp

theorem get?_eq_none_of_notMem {key : String} {fields : Fields} (h : key ∉ fields.keys) :
    fields.get? key = none := by
  induction fields with
  | nil => rfl
  | cons f rest ih =>
    simp only [keys, List.map_cons, List.mem_cons, not_or] at h
    simp only [get?, if_neg (Ne.symm h.1)]
    exact ih h.2

/-- What is set takes the place of what was there. -/
theorem get?_update {changes : Fields} (h : changes.keys.Nodup) (fields : Fields) (key : String) :
    (fields.update changes).get? key = (changes.get? key).or (fields.get? key) := by
  induction changes generalizing fields with
  | nil => rfl
  | cons f rest ih =>
    obtain ⟨k, v⟩ := f
    obtain ⟨hnew, hrest⟩ := List.nodup_cons.mp h
    have hupdate : fields.update ((k, v) :: rest) = (fields.insert k v).update rest := rfl
    rw [hupdate, ih hrest, get?_insert]
    by_cases hkey : key = k
    · subst hkey
      have hnone : get? key rest = none := get?_eq_none_of_notMem hnew
      simp [get?, hnone]
    · simp [get?, hkey, Ne.symm hkey]

/-- Entries of distinct keys are an object as they are. -/
theorem ofEntries_of_nodup {entries : Fields} (h : entries.keys.Nodup) :
    ofEntries entries = entries :=
  @update_of_nodup [] entries h

end Fields

namespace Value

/-- Null, false, zero and what is empty count as false. -/
def isTruthy : Value → Bool
  | null => false
  | bool b => b
  | int n => n != 0
  | float x => !x.isZero
  | str s => s != ""
  | arr items => !items.isEmpty
  | obj fields => !fields.isEmpty

/-- What messages call the type of a value. -/
def typeName : Value → String
  | null => "NoneType"
  | bool _ => "bool"
  | int _ => "int"
  | float _ => "float"
  | str _ => "str"
  | arr _ => "list"
  | obj _ => "dict"

/-- The text of a value that is one. -/
def string? : Value → Option String
  | str s => some s
  | _ => none

/-- The fields of a value that is an object. -/
def fields? : Value → Option Fields
  | obj fields => some fields
  | _ => none

/-- The value under a key, if the value is an object that has it. -/
def get? (v : Value) (key : String) : Option Value :=
  v.fields?.bind (Fields.get? key)

end Value

end PeopleFeed.Json
