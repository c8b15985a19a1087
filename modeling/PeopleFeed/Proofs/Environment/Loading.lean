import PeopleFeed.Environment.Variables

/-! What keeps an environment file from being loaded: it is no text, or there is a first variable
that is to be set and cannot be. -/
namespace PeopleFeed.Environment

variable {read : Reader} {vs : Variables} {file : Json.File} {name value : String}
  {bindings : Bindings} {e : Surprise}

/-- An environment cannot hold a variable of the name and the value. -/
inductive Unsettable (name value : String) : Surprise → Prop
  | embeddedNul (h : name.contains '\x00' ∨ value.contains '\x00') :
      Unsettable name value .embeddedNul
  | equals (hname : ¬ name.contains '\x00') (hvalue : ¬ value.contains '\x00')
      (h : name.contains '=') : Unsettable name value .equalsInVariable

theorem setVariable_eq_error_iff :
    setVariable vs name value = .error e ↔ Unsettable name value e := by
  unfold setVariable
  constructor
  · intro h
    split at h
    · rename_i hnul
      cases h
      exact .embeddedNul (by simpa using hnul)
    · rename_i hnul
      simp only [Bool.or_eq_true, not_or] at hnul
      split at h
      · rename_i hequals
        cases h
        exact .equals hnul.1 hnul.2 hequals
      · cases h
  · rintro (hnul | ⟨hname, hvalue, hequals⟩)
    · rw [if_pos (by simpa using hnul)]
    · rw [if_neg (by simp [hname, hvalue]), if_pos hequals]

/-- Among bindings there is one whose variable is still to be set behind those before it, and cannot
be. -/
structure Unset (vs : Variables) (bindings : Bindings) (e : Surprise) : Prop where
  exists_binding : ∃ before name value behind vs',
    bindings = before ++ (name, some value) :: behind ∧
    setMissing vs before = .ok vs' ∧ vs'.get? name = none ∧ Unsettable name value e

/-- Sets the variable of a binding that has a value, unless it is set already. -/
def setBound (vs : Variables) (binding : String × Option String) : Except Surprise Variables :=
  match binding.2, vs.get? binding.1 with
  | some value, none => setVariable vs binding.1 value
  | _, _ => .ok vs

theorem setMissing_cons (vs : Variables) (binding : String × Option String) (rest : Bindings) :
    setMissing vs (binding :: rest) = (setBound vs binding).bind fun vs => setMissing vs rest := by
  obtain ⟨name, value⟩ := binding
  rw [setMissing.eq_def, setBound]
  cases value with
  | none => rfl
  | some value =>
    cases hset : vs.get? name with
    | some old => simp only [hset, Except.bind]
    | none =>
      simp only [hset]
      cases setVariable vs name value <;> rfl

theorem setBound_eq_error_iff {value : Option String} :
    setBound vs (name, value) = .error e ↔
      ∃ v, value = some v ∧ vs.get? name = none ∧ Unsettable name v e := by
  cases value with
  | none => simp [setBound]
  | some v =>
    cases hset : vs.get? name with
    | some old => simp [setBound, hset]
    | none => simp [setBound, hset, setVariable_eq_error_iff]

theorem setMissing_eq_error_iff : setMissing vs bindings = .error e ↔ Unset vs bindings e := by
  induction bindings generalizing vs with
  | nil =>
    constructor
    · exact nofun
    · rintro ⟨before, name, value, behind, vs', hbindings, -⟩
      cases before <;> cases hbindings
  | cons binding rest ih =>
    rw [setMissing_cons]
    constructor
    · intro h
      cases hbound : setBound vs binding with
      | error e' =>
        rw [hbound] at h
        cases h
        obtain ⟨value, hvalue, hmissing, hunsettable⟩ := setBound_eq_error_iff.mp hbound
        exact ⟨[], binding.1, value, rest, vs, by rw [← hvalue, List.nil_append], rfl, hmissing,
          hunsettable⟩
      | ok vs' =>
        rw [hbound] at h
        obtain ⟨before, name, value, behind, last, rfl, hbefore, hmissing, hunsettable⟩ := ih.mp h
        refine ⟨binding :: before, name, value, behind, last, rfl, ?_, hmissing, hunsettable⟩
        rw [setMissing_cons, hbound]
        exact hbefore
    · rintro ⟨before, name, value, behind, last, hbindings, hbefore, hmissing, hunsettable⟩
      cases before with
      | nil =>
        cases hbindings
        cases hbefore
        rw [setBound_eq_error_iff.mpr ⟨value, rfl, hmissing, hunsettable⟩]
        rfl
      | cons first before =>
        cases hbindings
        rw [setMissing_cons] at hbefore
        cases hbound : setBound vs binding with
        | error e' =>
          rw [hbound] at hbefore
          cases hbefore
        | ok vs' =>
          rw [hbound] at hbefore
          exact ih.mpr ⟨before, name, value, behind, last, rfl, hbefore, hmissing, hunsettable⟩

/-- An environment file cannot be loaded. -/
inductive Unloaded (read : Reader) (vs : Variables) : Json.File → Surprise → Prop
  | undecodable {content : List UInt8} {error : Text.Utf8Error}
      (h : Text.decodeUtf8 content = .error error) :
      Unloaded read vs (.bytes content) (.undecodable error)
  | unset {content : List UInt8} {text : String} {e : Surprise}
      (htext : Text.decodeUtf8 content = .ok text)
      (h : Unset vs (read vs (Text.normalizeNewlines text)) e) : Unloaded read vs (.bytes content) e

theorem load_eq_error_iff : load read vs file = .error e ↔ Unloaded read vs file e := by
  cases file with
  | missing | directory => exact ⟨nofun, nofun⟩
  | bytes content =>
    cases htext : Text.decodeUtf8 content with
    | error error =>
      simp only [load, htext]
      constructor
      · rintro ⟨⟩
        exact .undecodable htext
      · rintro (herror | ⟨htext', -⟩)
        · rw [htext] at herror
          cases herror
          rfl
        · rw [htext] at htext'
          cases htext'
    | ok text =>
      have hload : load read vs (.bytes content) = .error e ↔
          setMissing vs (read vs (Text.normalizeNewlines text)) = .error e := by
        simp only [load, htext]
        cases setMissing vs (read vs (Text.normalizeNewlines text)) <;> simp [Except.map]
      rw [hload, setMissing_eq_error_iff]
      constructor
      · exact .unset htext
      · rintro (herror | ⟨htext', hunset⟩)
        · rw [htext] at herror
          cases herror
        · rw [htext] at htext'
          cases htext'
          exact hunset

end PeopleFeed.Environment
