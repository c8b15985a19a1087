import PeopleFeed.Seed.Validation
import Mathlib.Data.List.Forall2

/-! The entries of a seed, as they are told in JSON. Every entry of a seed without problems
describes an account, a membership or a connection. -/
namespace PeopleFeed.Seed

open PeopleFeed.Json (Value Fields)
open PeopleFeed.Search (namingText?)

variable {v entry : Value} {s t : Seed}

/-- The text under a key of an entry. -/
def textIn? (key : String) (entry : Value) : Option String :=
  (entry.get? key).bind Value.string?

/-- Whether an entry says that something is private. -/
def isPrivateIn (entry : Value) : Bool :=
  ((entry.get? "private").map Value.isTruthy).getD false

/-- What an entry says that a connection is. -/
def stateIn (entry : Value) : Value :=
  (entry.get? "state").getD (.str ConnectionState.accepted.name)

/-- The value, unless it is null. -/
def present? : Value → Option Value
  | .null => none
  | v => some v

/-- The profile fields of an entry that are not null. -/
def profileIn (entry : Value) : Fields :=
  ProfileField.all.filterMap fun f =>
    ((entry.get? f.name).bind present?).map fun v => (f.name, v)

theorem textIn?_of_nameIn? {fields : Fields} {key name : String}
    (h : nameIn? fields key = some name) : textIn? key (.obj fields) = some name := by
  obtain ⟨value, hvalue, hname⟩ := Option.bind_eq_some_iff.mp h
  have hget : Value.get? (.obj fields) key = some value := hvalue
  cases value with
  | str text =>
    have htext : text = name := by
      by_cases hblank : Text.isBlank text = true
      · simp [namingText?, hblank] at hname
      · simpa [namingText?, hblank] using hname
    simp [textIn?, hget, Value.string?, htext]
  | _ => cases hname

theorem ofName?_eq_group_iff (text : String) :
    AccountKind.ofName? text = some .group ↔ text = AccountKind.group.name := by
  constructor
  · intro h
    have hname := List.find?_some h
    simpa [eq_comm] using hname
  · rintro rfl
    exact AccountKind.ofName?_name .group

/-- The kind of an account, which is a user unless it says otherwise. -/
theorem textIn?_kind_iff {fields : Fields} {kind : AccountKind} (h : kind? fields = some kind) :
    textIn? "kind" (.obj fields) = some AccountKind.group.name ↔ kind = .group := by
  obtain ⟨text, htext, hkind⟩ := Option.bind_eq_some_iff.mp h
  have hgroup : kind = .group ↔ text = AccountKind.group.name := by
    rw [← ofName?_eq_group_iff, hkind, Option.some.injEq]
  unfold kindValue at htext
  have hget : Value.get? (.obj fields) "kind" = fields.get? "kind" := rfl
  unfold textIn?
  rw [hgroup, hget]
  cases hvalue : fields.get? "kind" with
  | none =>
    rw [hvalue] at htext
    cases htext
    simp [AccountKind.name]
  | some value =>
    rw [hvalue, Option.getD_some] at htext
    simp [htext]

/-- A profile field without problems is a text, or not present. -/
theorem present?_of_isColumn {value : Option Value} (h : isColumn value = true) :
    value.bind present? = (value.bind Value.string?).map Value.str := by
  cases value with
  | none => rfl
  | some value =>
    cases value with
    | null | str => rfl
    | _ => cases h

/-- How an entry describes an account. -/
structure DescribesAccount (entry : Value) (e : AccountEntry) : Prop where
  id : textIn? "id" entry = some e.id
  kind : textIn? "kind" entry = some AccountKind.group.name ↔ e.kind = .group
  isPrivate : isPrivateIn entry = e.isPrivate
  columns : ∀ f : ProfileField,
    (entry.get? f.name).bind present? = (e.columns.get f).map Value.str

theorem describesAccount_of_account? {e : AccountEntry} (hproblems : accountProblems entry = [])
    (h : account? entry = some e) : DescribesAccount entry e := by
  cases entry with
  | obj fields =>
    simp only [account?, Option.bind_eq_bind, Option.bind_eq_some_iff] at h
    obtain ⟨id, hid, kind, hkind, hentry⟩ := h
    cases hentry
    simp only [accountProblems, List.append_eq_nil_iff, List.flatMap_eq_nil_iff] at hproblems
    refine ⟨textIn?_of_nameIn? hid, textIn?_kind_iff hkind, rfl, ?_⟩
    intro f
    have hf : f ∈ ProfileField.all := by cases f <;> decide
    have hcolumn : isColumn (Fields.get? f.name fields) = true := by
      simpa [columnProblems] using hproblems.2 f hf
    rw [ProfileColumns.get_ofFunction]
    exact present?_of_isColumn hcolumn
  | _ => cases h

/-- How an entry describes a membership. -/
def DescribesMembership (entry : Value) (m : MembershipEntry) : Prop :=
  textIn? "group" entry = some m.group ∧ textIn? "member" entry = some m.member

theorem describesMembership_of_membership? {m : MembershipEntry} (h : membership? entry = some m) :
    DescribesMembership entry m := by
  cases entry with
  | obj fields =>
    simp only [membership?, Option.bind_eq_bind, Option.bind_eq_some_iff] at h
    obtain ⟨group, hgroup, member, hmember, hentry⟩ := h
    cases hentry
    exact ⟨textIn?_of_nameIn? hgroup, textIn?_of_nameIn? hmember⟩
  | _ => cases h

/-- The memberships of a list are those that its entries describe. -/
theorem mem_iff_describesMembership {entries : List Value} {ms : List MembershipEntry}
    (h : List.Forall₂ DescribesMembership entries ms) (m : MembershipEntry) :
    m ∈ ms ↔ ∃ entry ∈ entries, DescribesMembership entry m := by
  induction h with
  | nil => simp
  | @cons entry m' entries ms hentry _ ih =>
    have hsame : DescribesMembership entry m ↔ m = m' := by
      constructor
      · rintro ⟨hgroup, hmember⟩
        obtain ⟨g, u⟩ := m
        obtain ⟨g', u'⟩ := m'
        obtain rfl : g' = g := Option.some.inj (hentry.1.symm.trans hgroup)
        obtain rfl : u' = u := Option.some.inj (hentry.2.symm.trans hmember)
        rfl
      · rintro rfl
        exact hentry
    rw [List.mem_cons, ih]
    simp [hsame]

/-- How an entry describes a connection. -/
structure DescribesConnection (entry : Value) (c : ConnectionEntry) : Prop where
  owner : textIn? "owner" entry = some c.owner
  target : textIn? "target" entry = some c.target
  state : (stateIn entry).string? = some c.state.name

theorem name_of_ofName? {text : String} {state : ConnectionState}
    (h : ConnectionState.ofName? text = some state) : text = state.name := by
  have hname := List.find?_some h
  simpa [eq_comm] using hname

theorem describesConnection_of_connection? {c : ConnectionEntry} (h : connection? entry = some c) :
    DescribesConnection entry c := by
  cases entry with
  | obj fields =>
    simp only [connection?, Option.bind_eq_bind, Option.bind_eq_some_iff] at h
    obtain ⟨owner, howner, target, htarget, state, hstate, hentry⟩ := h
    cases hentry
    refine ⟨textIn?_of_nameIn? howner, textIn?_of_nameIn? htarget, ?_⟩
    obtain ⟨text, htext, hname⟩ := Option.bind_eq_some_iff.mp hstate
    rw [name_of_ofName? hname] at htext
    exact htext
  | _ => cases h

theorem entryProblems_of_listProblems {part : Part} {index : Nat} {entries : List Value}
    (h : listProblems part index entries = []) :
    ∀ entry ∈ entries, part.entryProblems entry = [] := by
  induction entries generalizing index with
  | nil => simp
  | cons v rest ih =>
    simp only [listProblems, List.append_eq_nil_iff, List.map_eq_nil_iff] at h
    intro entry hentry
    rcases List.mem_cons.mp hentry with rfl | hrest
    · exact h.1
    · exact ih h.2 entry hrest

/-- A seed without problems has none in an entry. -/
theorem entryProblems_of_validate (h : validate v = []) (part : Part) :
    ∀ entry ∈ entriesOf v part, part.entryProblems entry = [] := by
  cases v with
  | obj fields =>
    simp only [validate, List.append_eq_nil_iff] at h
    have hpart : partProblems fields part = [] := by
      cases part with
      | accounts => exact h.1.1
      | memberships => exact h.1.2
      | connections => exact h.2
    have hget : Value.get? (.obj fields) part.name = Fields.get? part.name fields := rfl
    unfold entriesOf
    unfold partProblems at hpart
    rw [hget]
    cases hsection : Fields.get? part.name fields with
    | none => simp
    | some section_ =>
      rw [hsection] at hpart
      cases section_ with
      | arr entries => exact entryProblems_of_listProblems hpart
      | _ => simp
  | _ => cases h

theorem listProblems_eq_nil {part : Part} {index : Nat} {entries : List Value}
    (h : ∀ entry ∈ entries, part.entryProblems entry = []) :
    listProblems part index entries = [] := by
  induction entries generalizing index with
  | nil => rfl
  | cons v rest ih =>
    have hfirst : part.entryProblems v = [] := h v List.mem_cons_self
    have hrest : listProblems part (index + 1) rest = [] :=
      ih fun entry hentry => h entry (List.mem_cons_of_mem v hentry)
    simp [listProblems, hfirst, hrest]

/-- An object whose sections are lists of entries without problems has none itself. -/
theorem validate_eq_nil {fields : Fields} {entries : Part → List Value}
    (hsections : ∀ part : Part, (fields.get? part.name).getD (.arr []) = .arr (entries part))
    (hgood : ∀ part, ∀ entry ∈ entries part, part.entryProblems entry = []) :
    validate (.obj fields) = [] := by
  have hpart : ∀ part, partProblems fields part = [] := by
    intro part
    have hsection := hsections part
    unfold partProblems
    cases hfound : fields.get? part.name with
    | none => rfl
    | some found =>
      rw [hfound, Option.getD_some] at hsection
      subst hsection
      exact listProblems_eq_nil (hgood part)
  simp [validate, hpart]

/-- A seed that is described by entries, section by section. -/
structure Describes (entries : Part → List Value) (s : Seed) : Prop where
  accounts : List.Forall₂ DescribesAccount (entries .accounts) s.accounts
  memberships : List.Forall₂ DescribesMembership (entries .memberships) s.memberships
  connections : List.Forall₂ DescribesConnection (entries .connections) s.connections

theorem forall₂_filterMap {β : Type} {read? : Value → Option β} {P : Value → β → Prop}
    {entries : List Value} (hsome : ∀ entry ∈ entries, (read? entry).isSome)
    (hread : ∀ entry ∈ entries, ∀ b, read? entry = some b → P entry b) :
    List.Forall₂ P entries (entries.filterMap read?) := by
  induction entries with
  | nil => exact .nil
  | cons v rest ih =>
    obtain ⟨b, hb⟩ := Option.isSome_iff_exists.mp (hsome v List.mem_cons_self)
    rw [List.filterMap_cons_some hb]
    refine .cons (hread v List.mem_cons_self b hb) (ih ?_ ?_)
    · exact fun entry hentry => hsome entry (List.mem_cons_of_mem v hentry)
    · exact fun entry hentry => hread entry (List.mem_cons_of_mem v hentry)

theorem describes_of_ofValue (h : ofValue v = .ok s) : Describes (entriesOf v) s := by
  unfold ofValue at h
  cases hproblems : validate v with
  | cons problem rest =>
    rw [hproblems] at h
    cases h
  | nil =>
    rw [hproblems] at h
    cases h
    have hgood := entryProblems_of_validate hproblems
    refine ⟨?_, ?_, ?_⟩
    · apply forall₂_filterMap
      · exact fun entry hentry => account?_isSome_of_accountProblems (hgood .accounts entry hentry)
      · exact fun entry hentry _ => describesAccount_of_account? (hgood .accounts entry hentry)
    · apply forall₂_filterMap
      · exact fun entry hentry =>
          membership?_isSome_of_membershipProblems (hgood .memberships entry hentry)
      · exact fun _ _ _ => describesMembership_of_membership?
    · apply forall₂_filterMap
      · exact fun entry hentry =>
          connection?_isSome_of_connectionProblems (hgood .connections entry hentry)
      · exact fun _ _ _ => describesConnection_of_connection?

end PeopleFeed.Seed
