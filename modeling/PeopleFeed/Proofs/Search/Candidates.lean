import PeopleFeed.Proofs.Search.Pulling
import Mathlib.Data.List.DropRight

/-! Which documents candidates are made of, what of a document its candidate carries, and whom a
candidate points at. -/
namespace PeopleFeed.Search

open PeopleFeed.Json (Value Fields)

variable {fields : Fields} {v doc : Value} {c : Candidate} {path text key id : String}
  {type : Option String} {more : List Value}

/-- A text, on its own or with more behind it in a list. -/
inductive Tells (text : String) : Value → Prop
  | alone : Tells text (.str text)
  | listed (more : List Value) : Tells text (.arr (.str text :: more))

/-- A document that tells a path, which is not blank, and a resource type, if any is there. -/
structure IsDocument (fields : Fields) (path : String) (type : Option String) : Prop where
  tellsPath : ∃ v, fields.get? "path" = some v ∧ Tells path v
  isNamed : ∃ c ∈ path.toList, Text.isBlankChar c = false
  tellsType : Option.Rel Tells type (fields.get? "resourceType")

theorem firstValue_eq_str_iff : firstValue v = .str text ↔ Tells text v := by
  constructor
  · intro h
    unfold firstValue at h
    split at h
    · cases h
    · subst h
      exact .listed _
    · subst h
      exact .alone
  · rintro (_ | _) <;> rfl

theorem namingText?_eq_some_iff :
    namingText? v = some text ↔ v = .str text ∧ ∃ c ∈ text.toList, Text.isBlankChar c = false := by
  cases v with
  | str s =>
    by_cases hs : Text.isBlank s
    · simp only [namingText?, hs, if_true, reduceCtorEq, false_iff, not_and, Value.str.injEq]
      rintro rfl ⟨c, hc, hblank⟩
      simp [List.all_eq_true.mp hs c hc] at hblank
    · simp only [namingText?, hs, Bool.false_eq_true, if_false, Option.some.injEq,
        Value.str.injEq, iff_self_and]
      rintro rfl
      simpa [Text.isBlank] using hs
  | _ => simp [namingText?]

/-! Reserved fields. -/

theorem get?_unwrapReserved (fields : Fields) (hkey : isReserved key = true) :
    (unwrapReserved fields).get? key = (fields.get? key).map firstValue := by
  induction fields with
  | nil => rfl
  | cons f rest ih =>
    obtain ⟨k, v⟩ := f
    have hcons : unwrapReserved ((k, v) :: rest) =
        (k, if isReserved k then firstValue v else v) :: unwrapReserved rest := by
      by_cases hk : isReserved k <;> simp [unwrapReserved, hk]
    by_cases hk : k = key
    · subst hk
      simp [hcons, Fields.get?, hkey]
    · simp [hcons, Fields.get?, hk, ih]

/-- Fields that are not reserved stay as they are. -/
theorem filter_unwrapReserved (fields : Fields) :
    (unwrapReserved fields).filter (fun f => !isReserved f.1) =
      fields.filter fun f => !isReserved f.1 := by
  induction fields with
  | nil => rfl
  | cons f rest ih =>
    have hcons : unwrapReserved (f :: rest) =
        (if isReserved f.1 then (f.1, firstValue f.2) else f) :: unwrapReserved rest := rfl
    by_cases hf : isReserved f.1 <;> simp [hcons, hf, ih]

/-- A reserved field may be set to a list that begins with its value. -/
theorem unwrapReserved_insert (hkey : isReserved key = true)
    (hget : fields.get? key = some (.str text)) (more : List Value) :
    unwrapReserved (fields.insert key (.arr (.str text :: more))) = unwrapReserved fields := by
  induction fields with
  | nil => cases hget
  | cons f rest ih =>
    obtain ⟨k, v⟩ := f
    by_cases hk : k = key
    · subst hk
      obtain rfl : v = .str text := by simpa [Fields.get?] using hget
      simp [Fields.insert, unwrapReserved, hkey, firstValue]
    · have hrest := ih (by simpa [Fields.get?, hk] using hget)
      simp only [Fields.insert, hk, if_false]
      simpa [unwrapReserved] using hrest

/-! Candidates. -/

theorem fieldProblems_eq_nil_iff :
    fieldProblems fields = [] ↔
      (∃ v path, fields.get? "path" = some v ∧ namingText? v = some path) ∧
        ∀ v, fields.get? "resourceType" = some v → ∃ text, v = .str text := by
  unfold fieldProblems
  rw [List.append_eq_nil_iff]
  apply and_congr
  · cases fields.get? "path" with
    | none => simp
    | some v => cases h : namingText? v <;> simp [h]
  · cases fields.get? "resourceType" with
    | none => simp
    | some v => cases v <;> simp [Value.string?]

/-- A resource type is told just if what counts of its field is a text, or nothing is there. -/
theorem tellsType_iff {told : Option Value} :
    Option.Rel Tells type told ↔
      (∀ v, told.map firstValue = some v → ∃ text, v = .str text) ∧
        type = (told.map firstValue).bind Value.string? := by
  constructor
  · intro h
    cases h with
    | none => simp
    | some h =>
      have hfirst := firstValue_eq_str_iff.mpr h
      simp [hfirst, Value.string?]
  · rintro ⟨hstring, rfl⟩
    cases told with
    | none => exact .none
    | some v =>
      obtain ⟨text, htext⟩ := hstring _ rfl
      simpa [htext, Value.string?] using Option.Rel.some (firstValue_eq_str_iff.mp htext)

theorem candidateOfDocument_eq_ok_iff :
    candidateOfDocument doc = .ok c ↔
      ∃ fields, doc = .obj fields ∧ IsDocument fields c.path c.resourceType ∧
        c.properties = fields.filter fun f => !isReserved f.1 := by
  cases doc with
  | obj fields =>
    have hpath := get?_unwrapReserved fields (show isReserved "path" = true by decide)
    have htype := get?_unwrapReserved fields (show isReserved "resourceType" = true by decide)
    have hobj : candidateOfDocument (.obj fields) = .ok c ↔
        fieldProblems (unwrapReserved fields) = [] ∧
          c = ⟨((unwrapReserved fields).get? "resourceType").bind Value.string?,
            (((unwrapReserved fields).get? "path").bind Value.string?).getD "",
            (unwrapReserved fields).filter fun f => !isReserved f.1⟩ := by
      unfold candidateOfDocument
      cases hproblems : fieldProblems (unwrapReserved fields) with
      | nil => simp [hproblems, eq_comm]
      | cons problem problems => simp [hproblems]
    rw [hobj, fieldProblems_eq_nil_iff, hpath, htype, filter_unwrapReserved]
    constructor
    · rintro ⟨⟨⟨v, path, hv, hname⟩, hstring⟩, rfl⟩
      obtain ⟨rfl, hnamed⟩ := namingText?_eq_some_iff.mp hname
      obtain ⟨told, htold, hfirst⟩ := Option.map_eq_some_iff.mp hv
      refine ⟨fields, rfl, ⟨⟨told, htold, ?_⟩, ?_, tellsType_iff.mpr ⟨hstring, rfl⟩⟩, rfl⟩
      · simpa [hv, Value.string?] using firstValue_eq_str_iff.mp hfirst
      · simpa [hv, Value.string?] using hnamed
    · rintro ⟨_, hfields, ⟨⟨v, hv, htells⟩, hnamed, htold⟩, hproperties⟩
      cases hfields
      obtain ⟨hstring, hresource⟩ := tellsType_iff.mp htold
      have hfirst := firstValue_eq_str_iff.mpr htells
      refine ⟨⟨⟨.str c.path, c.path, ?_, namingText?_eq_some_iff.mpr ⟨rfl, hnamed⟩⟩, hstring⟩, ?_⟩
      · rw [hv, Option.map_some, hfirst]
      · rw [← hresource, ← hproperties, hv, Option.map_some, hfirst]
        rfl
  | _ => simp [candidateOfDocument]

theorem pullDocument_eq_ok_iff : pullDocument doc = .ok c ↔ candidateOfDocument doc = .ok c := by
  unfold pullDocument
  cases candidateOfDocument doc <;> simp [Except.mapError]

/-- What is no document breaks the contract. -/
theorem pullDocument_eq_malformed (h : ∀ fields path type, doc = .obj fields →
    ¬ IsDocument fields path type) :
    ∃ problems, pullDocument doc = .error (.breach (.malformedDocument problems)) := by
  cases hdoc : candidateOfDocument doc with
  | ok c =>
    obtain ⟨fields, hfields, hdocument, -⟩ := candidateOfDocument_eq_ok_iff.mp hdoc
    exact absurd hdocument (h fields _ _ hfields)
  | error problems =>
    refine ⟨problems, ?_⟩
    simp [pullDocument, hdoc, Except.mapError]

/-- A list around a reserved text makes no difference. -/
theorem pullDocument_insert (hkey : key = "path" ∨ key = "resourceType")
    (hget : fields.get? key = some (.str text)) (more : List Value) :
    pullDocument (.obj (fields.insert key (.arr (.str text :: more)))) =
      pullDocument (.obj fields) := by
  have hreserved : isReserved key = true := by rcases hkey with rfl | rfl <;> decide
  simp only [pullDocument, candidateOfDocument, unwrapReserved_insert hreserved hget]

/-! Ids. -/

/-- The id is what stands behind the last slash of a path. -/
structure IsLastSegment (id path : String) : Prop where
  isSuffix : ∃ front, path = front ++ id
  slashFree : '/' ∉ id.toList
  longest : ∀ front text, path = front ++ text → '/' ∉ text.toList → text.length ≤ id.length

theorem toList_lastSegment (path : String) :
    (lastSegment path).toList = path.toList.rtakeWhile (· != '/') := by
  simp [lastSegment, List.rtakeWhile]

theorem isLastSegment_lastSegment (path : String) : IsLastSegment (lastSegment path) path where
  isSuffix := by
    obtain ⟨front, hfront⟩ := List.rtakeWhile_suffix (· != '/') path.toList
    refine ⟨String.ofList front, ?_⟩
    apply String.toList_injective
    simp [toList_lastSegment, hfront]
  slashFree := by
    intro hmem
    rw [toList_lastSegment] at hmem
    simpa using List.mem_rtakeWhile_imp hmem
  longest := by
    intro front text hpath hfree
    have hkept : ∀ c ∈ text.toList.reverse, (c != '/') = true := by
      intro c hc
      have hne : c ≠ '/' := by
        rintro rfl
        exact hfree (List.mem_reverse.mp hc)
      simpa using hne
    have hlist : (lastSegment path).toList =
        front.toList.rtakeWhile (· != '/') ++ text.toList := by
      rw [toList_lastSegment, hpath, String.toList_append, List.rtakeWhile, List.reverse_append,
        List.takeWhile_append_of_pos hkept, List.reverse_append, List.reverse_reverse]
      rfl
    have hlength : (lastSegment path).toList.length = (lastSegment path).length :=
      String.length_toList
    rw [hlist, List.length_append, String.length_toList] at hlength
    omega

/-- Nothing stands behind the last slash just if the path ends with it. -/
theorem lastSegment_eq_empty_iff (hpath : path ≠ "") :
    lastSegment path = "" ↔ ∃ front, path = front ++ "/" := by
  rw [← String.toList_eq_nil_iff, toList_lastSegment, List.rtakeWhile_eq_nil_iff]
  have hsome : path.toList ≠ [] := by simpa using hpath
  constructor
  · intro h
    have hlast : path.toList.getLast hsome = '/' := by simpa using h hsome
    refine ⟨String.ofList path.toList.dropLast, ?_⟩
    apply String.toList_injective
    rw [String.toList_append, String.toList_ofList]
    conv_lhs => rw [← List.dropLast_append_getLast hsome, hlast]
    rfl
  · rintro ⟨front, rfl⟩ _
    simp

/-- Whom a candidate points at. One that ought to point at somebody and does not breaks the
contract. -/
def Candidate.pointsAt (c : Candidate) : Except Fault (Option String) :=
  c.entityId.mapError fun path => .breach (.namelessPath path)

theorem pointsAt_of_unrecognized (hcontact : c.resourceType ≠ some "sakai/contact")
    (hentity : c.resourceType ≠ some "authorizable") : c.pointsAt = .ok none := by
  have hkind : c.kind = .unrecognized := by
    simp [Candidate.kind, Kind.ofResourceType, Kind.resourceType, hcontact, hentity]
  simp [Candidate.pointsAt, Candidate.entityId, Candidate.name?, hkind, Except.mapError]

theorem pointsAt_of_entity (htype : c.resourceType = some "authorizable") (hpath : c.path ≠ "") :
    c.pointsAt = .ok (some c.path) := by
  have hkind : c.kind = .entity := by
    simp [Candidate.kind, Kind.ofResourceType, Kind.resourceType, htype]
  simp [Candidate.pointsAt, Candidate.entityId, Candidate.name?, hkind, hpath, Except.mapError]

theorem pointsAt_of_contact (htype : c.resourceType = some "sakai/contact") :
    c.pointsAt =
      if lastSegment c.path = "" then .error (.breach (.namelessPath ⟨.contact, c.path⟩))
      else .ok (some (lastSegment c.path)) := by
  have hkind : c.kind = .contact := by
    simp [Candidate.kind, Kind.ofResourceType, Kind.resourceType, htype]
  by_cases hslash : lastSegment c.path = "" <;>
    simp [Candidate.pointsAt, Candidate.entityId, Candidate.name?, hkind, hslash, Except.mapError]

/-- How a candidate points at somebody: a contact by what stands behind the last slash of its path,
an entity by its path, and any other at nobody. -/
structure Candidate.Points (c : Candidate) : Prop where
  nobody_iff : c.pointsAt = .ok none ↔
    c.resourceType ≠ some "sakai/contact" ∧ c.resourceType ≠ some "authorizable"
  breach_iff : ∀ fault, c.pointsAt = .error fault ↔
    c.resourceType = some "sakai/contact" ∧ (∃ front, c.path = front ++ "/") ∧
      fault = .breach (.namelessPath ⟨.contact, c.path⟩)
  somebody : ∀ id, c.pointsAt = .ok (some id) →
    id ≠ "" ∧ (c.resourceType = some "sakai/contact" → IsLastSegment id c.path) ∧
      (c.resourceType = some "authorizable" → id = c.path)

theorem points_of_path (hpath : c.path ≠ "") : c.Points := by
  by_cases hcontact : c.resourceType = some "sakai/contact"
  · have hpoints := pointsAt_of_contact hcontact
    have hends := lastSegment_eq_empty_iff hpath
    by_cases hslash : lastSegment c.path = ""
    · rw [if_pos hslash] at hpoints
      constructor
      · simp [hpoints, hcontact]
      · simp [hpoints, hcontact, hends.mp hslash, eq_comm]
      · simp [hpoints]
    · rw [if_neg hslash] at hpoints
      constructor
      · simp [hpoints, hcontact]
      · intro fault
        simp [hpoints, hcontact, ← hends, hslash]
      · intro id hid
        obtain rfl : lastSegment c.path = id := by simpa [hpoints] using hid
        exact ⟨hslash, fun _ => isLastSegment_lastSegment c.path, by simp [hcontact]⟩
  · by_cases hentity : c.resourceType = some "authorizable"
    · have hpoints := pointsAt_of_entity hentity hpath
      constructor
      · simp [hpoints, hentity]
      · simp [hpoints, hentity]
      · intro id hid
        obtain rfl : c.path = id := by simpa [hpoints] using hid
        exact ⟨hpath, by simp [hentity], fun _ => rfl⟩
    · have hpoints := pointsAt_of_unrecognized hcontact hentity
      constructor
      · simp [hpoints, hcontact, hentity]
      · simp [hpoints, hcontact]
      · simp [hpoints]

/-- A candidate is made of a document just if the document is an object with a path that is not
blank and with a resource type that is a text, if it has one; either may come first in a list,
which makes no difference. The candidate carries path and type as they are told and all other
fields as they stand. Anything else breaks the contract. -/
theorem candidates_of_documents (doc : Value) :
    ((∃ c, pullDocument doc = .ok c) ↔
        ∃ fields path type, doc = .obj fields ∧ IsDocument fields path type) ∧
      ((¬ ∃ c, pullDocument doc = .ok c) →
        ∃ problems, pullDocument doc = .error (.breach (.malformedDocument problems))) ∧
      (∀ c, pullDocument doc = .ok c →
        (∃ fields, doc = .obj fields ∧ IsDocument fields c.path c.resourceType ∧
          c.properties = fields.filter fun f => f.1 != "path" && f.1 != "resourceType") ∧
        c.Points) ∧
      ∀ (fields : Fields) key text more, doc = .obj fields → key = "path" ∨ key = "resourceType" →
        fields.get? key = some (.str text) →
        pullDocument (.obj (fields.insert key (.arr (.str text :: more)))) = pullDocument doc := by
  have hmade : (∃ c, pullDocument doc = .ok c) ↔
      ∃ fields path type, doc = .obj fields ∧ IsDocument fields path type := by
    simp only [pullDocument_eq_ok_iff, candidateOfDocument_eq_ok_iff]
    constructor
    · rintro ⟨c, fields, hfields, hdocument, -⟩
      exact ⟨fields, c.path, c.resourceType, hfields, hdocument⟩
    · rintro ⟨fields, path, type, hfields, hdocument⟩
      exact ⟨⟨type, path, fields.filter fun f => !isReserved f.1⟩, fields, hfields, hdocument, rfl⟩
  refine ⟨hmade, ?_, ?_, ?_⟩
  · intro hnone
    apply pullDocument_eq_malformed
    intro fields path type hfields hdocument
    exact hnone (hmade.mpr ⟨fields, path, type, hfields, hdocument⟩)
  · intro c hc
    obtain ⟨fields, hfields, hdocument, hproperties⟩ :=
      candidateOfDocument_eq_ok_iff.mp (pullDocument_eq_ok_iff.mp hc)
    have hreserved : ∀ f : String × Value,
        (!isReserved f.1) = (f.1 != "path" && f.1 != "resourceType") := by
      intro f
      simp [isReserved, bne]
    refine ⟨⟨fields, hfields, hdocument, by simpa only [hreserved] using hproperties⟩, ?_⟩
    apply points_of_path
    intro hempty
    obtain ⟨c, hc, -⟩ := hdocument.isNamed
    simp [hempty] at hc
  · rintro fields key text more rfl hkey hget
    exact pullDocument_insert hkey hget more

end PeopleFeed.Search
