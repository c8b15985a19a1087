import PeopleFeed.Proofs.Seed.Entries

/-! The grammar of seeds. A seed has no problems just if every entry of its sections follows the
rule of the section, and the messages about an entry hang on that entry and its place alone. -/
namespace PeopleFeed.Seed

open PeopleFeed.Json (Value Fields)
open PeopleFeed.Search (namingText?)

variable {fields : Fields} {entry v : Value} {entries : List Value} {part part' : Part}
  {index index' : Nat} {key text : String}

/-! The rules. -/

/-- Under the key stands a text that is not blank. -/
def HasName (fields : Fields) (key : String) : Prop :=
  ∃ text, fields.get? key = some (.str text) ∧ ∃ c ∈ text.toList, Text.isBlankChar c = false

/-- Under the key stands the name of something, if anything does. -/
def HasNameOf {α : Type} (name : α → String) (fields : Fields) (key : String) : Prop :=
  ∀ v, fields.get? key = some v → ∃ a, v = .str (name a)

/-- Under the key stands null or a text, if anything does. -/
def HasColumn (fields : Fields) (key : String) : Prop :=
  ∀ v, fields.get? key = some v → v = .null ∨ ∃ text, v = .str text

/-- What an entry of a section may be. -/
inductive Part.Allows : Part → Value → Prop
  | account {fields : Fields} (id : HasName fields "id")
      (kind : HasNameOf AccountKind.name fields "kind")
      (columns : ∀ f : ProfileField, HasColumn fields f.name) : Allows accounts (.obj fields)
  | membership {fields : Fields} (group : HasName fields "group")
      (member : HasName fields "member") : Allows memberships (.obj fields)
  | connection {fields : Fields} (owner : HasName fields "owner")
      (target : HasName fields "target")
      (state : HasNameOf ConnectionState.name fields "state") : Allows connections (.obj fields)

/-- What may stand for a section: nothing, or a list of entries. -/
inductive Part.AllowsSection (part : Part) : Option Value → Prop
  | absent : AllowsSection part none
  | list {entries : List Value} (h : ∀ entry ∈ entries, part.Allows entry) :
      AllowsSection part (some (.arr entries))

theorem isSome_namingText?_iff :
    (namingText? v).isSome ↔
      ∃ text, v = .str text ∧ ∃ c ∈ text.toList, Text.isBlankChar c = false := by
  cases v with
  | str text => simp [namingText?, Text.isBlank]
  | _ => simp [namingText?]

theorem nameProblems_eq_nil_iff : nameProblems fields key = [] ↔ HasName fields key := by
  have hname : (nameIn? fields key).isSome ↔ HasName fields key := by
    unfold nameIn? HasName
    cases fields.get? key with
    | none => simp
    | some v => simpa using isSome_namingText?_iff
  unfold nameProblems
  rw [← hname]
  split <;> simp_all

/-- What stands under a key is the name of something, also the name that stands for nothing. -/
theorem isSome_bind_iff {α : Type} {name : α → String} {ofName? : String → Option α}
    (hname : ∀ text, (ofName? text).isSome ↔ ∃ a, text = name a) (default : α) :
    ((((fields.get? key).getD (.str (name default))).string?).bind ofName?).isSome ↔
      HasNameOf name fields key := by
  unfold HasNameOf
  cases fields.get? key with
  | none => simpa [Value.string?] using (hname _).mpr ⟨default, rfl⟩
  | some v => cases v <;> simp [Value.string?, hname]

theorem AccountKind.isSome_ofName?_iff :
    (AccountKind.ofName? text).isSome ↔ ∃ k : AccountKind, text = k.name := by
  constructor
  · intro h
    obtain ⟨k, hk⟩ := Option.isSome_iff_exists.mp h
    have hname := List.find?_some hk
    exact ⟨k, by simpa [eq_comm] using hname⟩
  · rintro ⟨k, rfl⟩
    rw [AccountKind.ofName?_name]
    rfl

theorem ConnectionState.isSome_ofName?_iff :
    (ConnectionState.ofName? text).isSome ↔ ∃ s : ConnectionState, text = s.name := by
  constructor
  · intro h
    obtain ⟨s, hs⟩ := Option.isSome_iff_exists.mp h
    exact ⟨s, name_of_ofName? hs⟩
  · rintro ⟨s, rfl⟩
    rw [ConnectionState.ofName?_name]
    rfl

theorem isSome_kind?_iff : (kind? fields).isSome ↔ HasNameOf AccountKind.name fields "kind" :=
  isSome_bind_iff (fun _ => AccountKind.isSome_ofName?_iff) .user

theorem isSome_state?_iff :
    (state? fields).isSome ↔ HasNameOf ConnectionState.name fields "state" :=
  isSome_bind_iff (fun _ => ConnectionState.isSome_ofName?_iff) .accepted

theorem columnProblems_eq_nil_iff {f : ProfileField} :
    columnProblems fields f = [] ↔ HasColumn fields f.name := by
  have hcolumn : isColumn (fields.get? f.name) = true ↔ HasColumn fields f.name := by
    unfold HasColumn
    cases fields.get? f.name with
    | none => simp [isColumn]
    | some v => cases v <;> simp [isColumn]
  unfold columnProblems
  rw [← hcolumn]
  split <;> simp_all

theorem accountProblems_eq_nil_iff : accountProblems entry = [] ↔ Part.accounts.Allows entry := by
  constructor
  · intro h
    cases entry with
    | obj fields =>
      simp only [accountProblems, List.append_eq_nil_iff, List.flatMap_eq_nil_iff] at h
      obtain ⟨⟨hid, hkind⟩, hcolumns⟩ := h
      refine .account (nameProblems_eq_nil_iff.mp hid) (isSome_kind?_iff.mp ?_) ?_
      · by_contra hnone
        simp [hnone] at hkind
      · intro f
        have hf : f ∈ ProfileField.all := by cases f <;> decide
        exact columnProblems_eq_nil_iff.mp (hcolumns f hf)
    | _ => cases h
  · intro h
    cases h with
    | account hid hkind hcolumns =>
      simp only [accountProblems, List.append_eq_nil_iff, List.flatMap_eq_nil_iff]
      refine ⟨⟨nameProblems_eq_nil_iff.mpr hid, if_pos (isSome_kind?_iff.mpr hkind)⟩, ?_⟩
      intro f _
      exact columnProblems_eq_nil_iff.mpr (hcolumns f)

theorem membershipProblems_eq_nil_iff :
    membershipProblems entry = [] ↔ Part.memberships.Allows entry := by
  constructor
  · intro h
    cases entry with
    | obj fields =>
      obtain ⟨hgroup, hmember⟩ := List.append_eq_nil_iff.mp h
      exact .membership (nameProblems_eq_nil_iff.mp hgroup) (nameProblems_eq_nil_iff.mp hmember)
    | _ => cases h
  · intro h
    cases h with
    | membership hgroup hmember =>
      exact List.append_eq_nil_iff.mpr
        ⟨nameProblems_eq_nil_iff.mpr hgroup, nameProblems_eq_nil_iff.mpr hmember⟩

theorem connectionProblems_eq_nil_iff :
    connectionProblems entry = [] ↔ Part.connections.Allows entry := by
  constructor
  · intro h
    cases entry with
    | obj fields =>
      simp only [connectionProblems, List.append_eq_nil_iff] at h
      obtain ⟨⟨howner, htarget⟩, hstate⟩ := h
      refine .connection (nameProblems_eq_nil_iff.mp howner) (nameProblems_eq_nil_iff.mp htarget)
        (isSome_state?_iff.mp ?_)
      by_contra hnone
      simp [hnone] at hstate
    | _ => cases h
  · intro h
    cases h with
    | connection howner htarget hstate =>
      simp only [connectionProblems, List.append_eq_nil_iff]
      exact ⟨⟨nameProblems_eq_nil_iff.mpr howner, nameProblems_eq_nil_iff.mpr htarget⟩,
        if_pos (isSome_state?_iff.mpr hstate)⟩

/-- An entry has no problems just if it follows the rule of its section. -/
theorem entryProblems_eq_nil_iff : part.entryProblems entry = [] ↔ part.Allows entry := by
  cases part with
  | accounts => exact accountProblems_eq_nil_iff
  | memberships => exact membershipProblems_eq_nil_iff
  | connections => exact connectionProblems_eq_nil_iff

/-! The messages. -/

/-- The sections in the order in which they are checked. -/
def Part.all : List Part := [accounts, memberships, connections]

/-- How the messages about an entry begin. -/
def Part.place (part : Part) (index : Nat) : String :=
  part.name ++ "[" ++ toString index ++ "]"

/-- The messages about the entry of an index. -/
def Part.report (part : Part) (index : Nat) (entry : Value) : List String :=
  (part.entryProblems entry).map fun problem => (Problem.entry part index problem).message

/-- The messages about what stands for a section. -/
def Part.messages (part : Part) : Option Value → List String
  | none => []
  | some (.arr entries) => (entries.mapIdx part.report).flatten
  | some _ => ["Field '" ++ part.name ++ "' must be a list"]

/-- Whether a message begins like those about an entry. -/
def Part.isAbout (part : Part) (index : Nat) (message : String) : Bool :=
  (part.place index).toList.isPrefixOf message.toList

theorem Part.mem_all (part : Part) : part ∈ Part.all := by
  cases part <;> decide

theorem message_listProblems (part : Part) (index : Nat) (entries : List Value) :
    (listProblems part index entries).map Problem.message =
      (entries.mapIdx fun i entry => part.report (index + i) entry).flatten := by
  induction entries generalizing index with
  | nil => rfl
  | cons v rest ih =>
    have hshift : ∀ i, index + 1 + i = index + (i + 1) := by omega
    simp [listProblems, List.mapIdx_cons, ih, Part.report, hshift, Function.comp_def]

theorem message_partProblems (fields : Fields) (part : Part) :
    (partProblems fields part).map Problem.message = part.messages (fields.get? part.name) := by
  unfold partProblems
  cases fields.get? part.name with
  | none => rfl
  | some v =>
    cases v with
    | arr entries => simp [message_listProblems, Part.messages]
    | _ => rfl

/-- The messages of a seed are those of its sections. -/
theorem message_validate (fields : Fields) :
    (validate (.obj fields)).map Problem.message =
      Part.all.flatMap fun part => part.messages (fields.get? part.name) := by
  simp [validate, Part.all, message_partProblems]

theorem Part.report_eq_nil_iff : part.report index entry = [] ↔ part.Allows entry := by
  rw [Part.report, List.map_eq_nil_iff, entryProblems_eq_nil_iff]

theorem Part.messages_eq_nil_iff {told : Option Value} :
    part.messages told = [] ↔ part.AllowsSection told := by
  constructor
  · intro h
    cases told with
    | none => exact .absent
    | some v =>
      cases v with
      | arr entries =>
        refine .list ?_
        intro entry hentry
        obtain ⟨i, hi, rfl⟩ := List.getElem_of_mem hentry
        have hreport : part.report i entries[i] = [] := by
          apply List.flatten_eq_nil_iff.mp h
          exact List.mem_mapIdx.mpr ⟨i, hi, rfl⟩
        exact Part.report_eq_nil_iff.mp hreport
      | _ => cases h
  · intro h
    cases h with
    | absent => rfl
    | list h =>
      apply List.flatten_eq_nil_iff.mpr
      intro messages hmessages
      obtain ⟨i, hi, rfl⟩ := List.mem_mapIdx.mp hmessages
      exact Part.report_eq_nil_iff.mpr (h _ (List.getElem_mem hi))

/-! Where a message belongs. -/

theorem message_entry (part : Part) (index : Nat) (problem : EntryProblem) :
    (Problem.entry part index problem).message =
      part.place index ++ (": " ++ problem.message) := by
  apply String.toList_injective
  simp [Problem.message, Part.place]

theorem exists_of_mem_report {message : String} (h : message ∈ part.report index entry) :
    ∃ rest, message = part.place index ++ rest := by
  obtain ⟨problem, -, rfl⟩ := List.mem_map.mp h
  exact ⟨_, message_entry part index problem⟩

theorem notMem_toDigits {c : Char} (hc : c.isDigit = false) (n : Nat) :
    c ∉ Nat.toDigits 10 n := by
  intro hmem
  have hdigit := Nat.isDigit_of_mem_toDigits (by decide) (by decide) hmem
  rw [hc] at hdigit
  cases hdigit

/-- Two places of which one begins like the other are the same. -/
theorem Part.place_inj {rest rest' : List Char}
    (h : (part.place index).toList ++ rest = (part'.place index').toList ++ rest') :
    part = part' ∧ index = index' := by
  have hnumber : ∀ n, (toString n).toList = Nat.toDigits 10 n := fun n => by
    simp [Nat.repr_eq_ofList_toDigits]
  have hpart : part = part' := by
    cases part <;> cases part' <;> first | rfl | simp [Part.place, Part.name] at h
  subst hpart
  have hdigits : Nat.toDigits 10 index ++ ']' :: rest = Nat.toDigits 10 index' ++ ']' :: rest' := by
    simpa [Part.place, hnumber, -Nat.toString_eq_repr] using h
  -- The digits end at the first bracket.
  have htake : ∀ n (tail : List Char),
      (Nat.toDigits 10 n ++ ']' :: tail).takeWhile (· != ']') = Nat.toDigits 10 n := by
    intro n tail
    rw [List.takeWhile_append_of_pos]
    · simp
    · intro c hc
      have hne : c ≠ ']' := by
        rintro rfl
        exact notMem_toDigits (by decide) n hc
      simpa using hne
  have hsame : Nat.toDigits 10 index = Nat.toDigits 10 index' := by
    rw [← htake index rest, hdigits, htake]
  refine ⟨rfl, ?_⟩
  have hvalue := congrArg (Nat.ofDigitChars 10 · 0) hsame
  simpa [Nat.ofDigitChars_toDigits] using hvalue

theorem Part.isAbout_iff {message : String} :
    part.isAbout index message = true ↔ ∃ rest, message = part.place index ++ rest := by
  unfold Part.isAbout
  rw [List.isPrefixOf_iff_prefix]
  constructor
  · rintro ⟨rest, hrest⟩
    refine ⟨String.ofList rest, ?_⟩
    apply String.toList_injective
    simpa using hrest.symm
  · rintro ⟨rest, rfl⟩
    exact ⟨rest.toList, by simp⟩

/-- The report on an entry is about that entry and no other. -/
theorem filter_report (part part' : Part) (index index' : Nat) (entry : Value) :
    (part'.report index' entry).filter (part.isAbout index) =
      if part' = part ∧ index' = index then part'.report index' entry else [] := by
  by_cases h : part' = part ∧ index' = index
  · obtain ⟨rfl, rfl⟩ := h
    rw [if_pos ⟨rfl, rfl⟩, List.filter_eq_self]
    intro message hmessage
    exact Part.isAbout_iff.mpr (exists_of_mem_report hmessage)
  · rw [if_neg h, List.filter_eq_nil_iff]
    intro message hmessage habout
    obtain ⟨rest, hplace⟩ := Part.isAbout_iff.mp habout
    obtain ⟨rest', hplace'⟩ := exists_of_mem_report hmessage
    have hsame : (part'.place index').toList ++ rest'.toList =
        (part.place index).toList ++ rest.toList := by
      rw [← String.toList_append, ← String.toList_append, ← hplace, ← hplace']
    exact h (Part.place_inj hsame)

/-- Of a list of reports told apart by their index one is left. -/
theorem flatten_mapIdx_ite {α β : Type} (f : Nat → α → List β) (n : Nat) (xs : List α) :
    (xs.mapIdx fun i x => if i = n then f i x else []).flatten = xs[n]?.elim [] (f n) := by
  induction xs generalizing f n with
  | nil => rfl
  | cons x xs ih =>
    cases n with
    | zero =>
      have hnone : (xs.mapIdx fun _ _ => ([] : List β)).flatten = [] := by
        rw [List.flatten_eq_nil_iff]
        intro ys hys
        obtain ⟨i, hi, rfl⟩ := List.mem_mapIdx.mp hys
        rfl
      simp [List.mapIdx_cons, hnone]
    | succ n => simpa [List.mapIdx_cons] using ih (fun i => f (i + 1)) n

/-- What a section tells about an entry is the report on it, if the entry is one of the section. -/
theorem filter_messages (part part' : Part) (index : Nat) (fields : Fields) :
    (part'.messages (fields.get? part'.name)).filter (part.isAbout index) =
      if part' = part then (entriesOf (.obj fields) part)[index]?.elim [] (part.report index)
      else [] := by
  have hlist : part.isAbout index ("Field '" ++ part'.name ++ "' must be a list") = false := by
    cases part <;> simp [Part.isAbout, Part.place, Part.name, List.isPrefixOf]
  have hget : (Value.obj fields).get? part.name = fields.get? part.name := rfl
  by_cases hpart : part' = part
  · subst hpart
    rw [if_pos rfl, entriesOf, hget]
    cases fields.get? part'.name with
    | none => rfl
    | some v =>
      cases v with
      | arr entries =>
        have hreports : (entries.mapIdx part'.report).map (List.filter (part'.isAbout index)) =
            entries.mapIdx fun i entry => if i = index then part'.report i entry else [] := by
          apply List.ext_getElem?
          intro i
          simp [filter_report, Function.comp_def]
        rw [Part.messages, List.filter_flatten, hreports, flatten_mapIdx_ite]
      | _ => simp [Part.messages, hlist]
  · rw [if_neg hpart, List.filter_eq_nil_iff]
    intro message hmessage
    cases hsection : fields.get? part'.name with
    | none => simp [hsection, Part.messages] at hmessage
    | some v =>
      rw [hsection] at hmessage
      cases v with
      | arr entries =>
        obtain ⟨report, hreport, hmem⟩ := List.mem_flatten.mp hmessage
        obtain ⟨i, hi, rfl⟩ := List.mem_mapIdx.mp hreport
        have hnone := filter_report part part' index i entries[i]
        rw [if_neg (fun h => hpart h.1)] at hnone
        exact List.filter_eq_nil_iff.mp hnone message hmem
      | _ =>
        obtain rfl := List.mem_singleton.mp hmessage
        simp [hlist]

/-- An object is accepted as a seed just if each of its sections is absent or a list of entries
that follow the rule of the section. Otherwise the messages are those of the sections one after the
other: that the section is not a list, or the reports on its entries in their order. A report hangs
on the entry and its index alone, its messages begin with the place of the entry, and it is empty
just if the entry follows the rule; so all that is told about an entry is the report on it, whatever
stands beside it. -/
theorem validate_localises (fields : Fields) :
    let messages := (validate (.obj fields)).map Problem.message
    (messages = [] ↔ ∀ part : Part, part.AllowsSection (fields.get? part.name)) ∧
      messages = Part.all.flatMap (fun part => part.messages (fields.get? part.name)) ∧
      ∀ (part : Part) (index : Nat),
        (∀ entry, (part.report index entry = [] ↔ part.Allows entry) ∧
          ∀ message ∈ part.report index entry, ∃ rest, message = part.place index ++ rest) ∧
        messages.filter (part.isAbout index) =
          (entriesOf (.obj fields) part)[index]?.elim [] (part.report index) := by
  intro messages
  have hall : messages = Part.all.flatMap fun part => part.messages (fields.get? part.name) :=
    message_validate fields
  refine ⟨?_, hall, ?_⟩
  · rw [hall, List.flatMap_eq_nil_iff]
    constructor
    · intro h part
      exact Part.messages_eq_nil_iff.mp (h part part.mem_all)
    · intro h part _
      exact Part.messages_eq_nil_iff.mpr (h part)
  · intro part index
    refine ⟨fun entry => ⟨Part.report_eq_nil_iff, fun _ => exists_of_mem_report⟩, ?_⟩
    simp only [hall, Part.all, List.flatMap_cons, List.flatMap_nil, List.filter_append,
      filter_messages]
    cases part <;> simp

end PeopleFeed.Seed
