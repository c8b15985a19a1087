import Mathlib.Data.List.Induction
import PeopleFeed.Disk.Files

/-! The making of directories. It adds directories to a tree and nothing else, and it comes to an
end at the first name that is too long or is taken by something else. -/
namespace PeopleFeed.Disk

variable {t u : Tree} {start p q : Place} {names above behind : List FileName} {name : FileName}
  {n : Node} {o : Obstacle} {path : String} {e : Surprise}

/-- A tree that has more directories than another, and is like it for the rest. -/
structure Tree.Extends (t u : Tree) : Prop where
  memories : u.memories = t.memories
  nodes : ∀ p, u.nodeAt? p = t.nodeAt? p ∨ t.nodeAt? p = none ∧ u.nodeAt? p = some .directory

namespace Tree

theorem Extends.refl (t : Tree) : t.Extends t where
  memories := rfl
  nodes := fun _ => .inl rfl

theorem Extends.trans {v : Tree} (h : t.Extends u) (h' : u.Extends v) : t.Extends v where
  memories := h'.memories.trans h.memories
  nodes := by
    intro p
    rcases h'.nodes p with hsame | ⟨hnone, hmade⟩
    · rw [hsame]
      exact h.nodes p
    · rcases h.nodes p with hbefore | ⟨-, hdirectory⟩
      · exact .inr ⟨hbefore ▸ hnone, hmade⟩
      · rw [hdirectory] at hnone
        cases hnone

theorem Extends.nodeAt?_eq (h : t.Extends u) (hn : t.nodeAt? p = some n) :
    u.nodeAt? p = some n := by
  rcases h.nodes p with hsame | ⟨hnone, -⟩
  · exact hsame.trans hn
  · rw [hnone] at hn
    cases hn

/-- Only directories are new. -/
theorem Extends.nodeAt?_of_file (h : t.Extends u) (hn : u.nodeAt? p = some n)
    (hfile : n ≠ .directory) : t.nodeAt? p = some n := by
  rcases h.nodes p with hsame | ⟨-, hdirectory⟩
  · exact hsame ▸ hn
  · rw [hdirectory] at hn
    exact absurd (Option.some.inj hn).symm hfile

theorem isOutermost_of_nodeAt? (h : t.nodeAt? p = none) : p.isOutermost = false := by
  unfold nodeAt? at h
  split at h
  · cases h
  · rename_i houtermost
    simpa using houtermost

theorem extends_put_directory (h : t.nodeAt? p = none) : t.Extends (t.put p .directory) where
  memories := rfl
  nodes := by
    intro q
    rw [nodeAt?_put t p q .directory (isOutermost_of_nodeAt? h)]
    by_cases hq : q = p
    · subst hq
      exact .inr ⟨h, if_pos rfl⟩
    · exact .inl (if_neg hq)

/-! Names that lead over directories. -/

/-- A path starts at a directory. -/
theorem nodeAt?_startOf (t : Tree) (path : FileName) :
    t.nodeAt? (Place.startOf path) = some .directory := by
  unfold Place.startOf
  split <;> rfl

theorem enter_of_directory (h : t.nodeAt? p = some .directory) (name : FileName) :
    t.enter p name =
      if longestName < name.length then .error .tooLong else .ok (p.child name) := by
  simp only [enter, h]

theorem enter_of_missing (h : t.nodeAt? p = none) (name : FileName) :
    t.enter p name = .error .missing := by
  simp only [enter, h]

theorem enter_of_file (h : t.nodeAt? p = some n) (hfile : n ≠ .directory) (name : FileName) :
    t.enter p name = .error .notDirectory := by
  cases n with
  | directory => exact absurd rfl hfile
  | bytes | database => simp only [enter, h]

theorem enter_eq_ok_iff : t.enter p name = .ok q ↔
    t.nodeAt? p = some .directory ∧ name.length ≤ longestName ∧ p.child name = q := by
  cases h : t.nodeAt? p with
  | none => simp [enter_of_missing h]
  | some n =>
    by_cases hn : n = .directory
    · subst hn
      rw [enter_of_directory h]
      by_cases hlong : longestName < name.length
      · simp [hlong, Nat.not_le.mpr hlong]
      · simp [hlong, Nat.not_lt.mp hlong]
    · simp [enter_of_file h hn, hn]

theorem follow_concat (t : Tree) (start : Place) (above : List FileName) (name : FileName) :
    t.follow start (above ++ [name]) = (t.follow start above).bind fun p => t.enter p name := by
  simp only [follow, List.foldlM_append, List.foldlM_cons, List.foldlM_nil, bind_pure]
  rfl

theorem follow_append_of_error (h : t.follow start above = .error o) (behind : List FileName) :
    t.follow start (above ++ behind) = .error o := by
  simp only [follow, List.foldlM_append] at h ⊢
  rw [h]
  rfl

theorem follow_concat_eq_ok_iff : t.follow start (above ++ [name]) = .ok q ↔
    ∃ p, t.follow start above = .ok p ∧ t.nodeAt? p = some .directory ∧
      name.length ≤ longestName ∧ p.child name = q := by
  rw [follow_concat]
  cases t.follow start above with
  | ok p => simp [Except.bind, enter_eq_ok_iff]
  | error o => simp [Except.bind]

/-- In a tree with more directories names lead to the same place. -/
theorem Extends.follow_eq (h : t.Extends u) (hp : t.follow start names = .ok p) :
    u.follow start names = .ok p := by
  induction names using List.reverseRecOn generalizing p with
  | nil => exact hp
  | append_singleton above name ih =>
    obtain ⟨r, hr, hdirectory, hlength, hchild⟩ := follow_concat_eq_ok_iff.mp hp
    exact follow_concat_eq_ok_iff.mpr ⟨r, ih hr, h.nodeAt?_eq hdirectory, hlength, hchild⟩

/-- Names that lead somewhere once directories are made did so before, or one was missing. -/
theorem Extends.follow_eq_or_missing (h : t.Extends u) (hp : u.follow start names = .ok p) :
    t.follow start names = .ok p ∨ t.follow start names = .error .missing := by
  induction names using List.reverseRecOn generalizing p with
  | nil => exact .inl hp
  | append_singleton above name ih =>
    obtain ⟨r, hr, hdirectory, hlength, hchild⟩ := follow_concat_eq_ok_iff.mp hp
    rcases ih hr with hr | hmissing
    · rcases h.nodes r with hsame | ⟨hnone, -⟩
      · exact .inl (follow_concat_eq_ok_iff.mpr ⟨r, hr, hsame ▸ hdirectory, hlength, hchild⟩)
      · right
        rw [follow_concat, hr, Except.bind, enter_of_missing hnone]
    · exact .inr (follow_append_of_error hmissing [name])

/-! The last of some directories. -/

theorem makeLast_of_follow_error (h : t.follow start names = .error o) :
    t.makeLast start names = .error o := by
  simp only [makeLast, h]
  rfl

theorem makeLast_of_missing (h : t.follow start names = .ok p) (hp : t.nodeAt? p = none) :
    t.makeLast start names = .ok (t.put p .directory) := by
  simp only [makeLast, h, bind, Except.bind, hp]

theorem makeLast_of_directory (h : t.follow start names = .ok p)
    (hp : t.nodeAt? p = some .directory) : t.makeLast start names = .ok t := by
  simp only [makeLast, h, bind, Except.bind, hp]

theorem makeLast_of_file (h : t.follow start names = .ok p) (hp : t.nodeAt? p = some n)
    (hfile : n ≠ .directory) : t.makeLast start names = .error .occupied := by
  cases n with
  | directory => exact absurd rfl hfile
  | bytes | database => simp only [makeLast, h, bind, Except.bind, hp]

/-- All that becomes of the last of some directories. -/
theorem makeLast_cases (t : Tree) (start : Place) (names : List FileName) :
    (∃ o, t.follow start names = .error o ∧ t.makeLast start names = .error o) ∨
    (∃ p n, t.follow start names = .ok p ∧ t.nodeAt? p = some n ∧ n ≠ .directory ∧
      t.makeLast start names = .error .occupied) ∨
    ∃ p u, t.follow start names = .ok p ∧ t.Extends u ∧ u.nodeAt? p = some .directory ∧
      t.makeLast start names = .ok u := by
  cases hfollow : t.follow start names with
  | error o => exact .inl ⟨o, rfl, makeLast_of_follow_error hfollow⟩
  | ok p =>
    right
    cases hp : t.nodeAt? p with
    | none =>
      have hmade : (t.put p .directory).nodeAt? p = some .directory := by
        rw [nodeAt?_put t p p _ (isOutermost_of_nodeAt? hp), if_pos rfl]
      exact .inr ⟨p, _, rfl, extends_put_directory hp, hmade, makeLast_of_missing hfollow hp⟩
    | some n =>
      by_cases hn : n = .directory
      · subst hn
        exact .inr ⟨p, t, rfl, .refl t, hp, makeLast_of_directory hfollow hp⟩
      · exact .inl ⟨p, n, rfl, hp, hn, makeLast_of_file hfollow hp hn⟩

/-! All of them. -/

/-- The directories of some names are made, or are there already. -/
def Makes (t : Tree) (start : Place) (names : List FileName) (u : Tree) : Prop :=
  makeAlong start names.reverse t = (u, .ok ())

theorem makeAlong_of_made (h : t.makeLast start (above ++ [name]) = .ok u) :
    makeAlong start (above ++ [name]).reverse t = (u, .ok ()) := by
  rw [List.reverse_append, List.reverse_singleton, List.singleton_append, makeAlong]
  simp only [List.reverse_cons, List.reverse_reverse, h]

theorem makeAlong_of_stopped (h : t.makeLast start (above ++ [name]) = .error o)
    (ho : o ≠ .missing) : makeAlong start (above ++ [name]).reverse t = (t, .error o) := by
  rw [List.reverse_append, List.reverse_singleton, List.singleton_append, makeAlong]
  simp only [List.reverse_cons, List.reverse_reverse, h]
  cases o with
  | missing => exact absurd rfl ho
  | _ => rfl

/-- Where one is missing, those above are made first. -/
theorem makeAlong_of_missing (h : t.makeLast start (above ++ [name]) = .error .missing) :
    makeAlong start (above ++ [name]).reverse t =
      match makeAlong start above.reverse t with
      | (u, .ok ()) =>
        match u.makeLast start (above ++ [name]) with
        | .ok v => (v, .ok ())
        | .error o => (u, .error o)
      | stopped => stopped := by
  rw [List.reverse_append, List.reverse_singleton, List.singleton_append, makeAlong]
  cases hmade : makeAlong start above.reverse t with
  | mk u r =>
    cases hlast : u.makeLast start (above ++ [name]) <;> cases r <;>
      simp only [List.reverse_cons, List.reverse_reverse, h, hmade, hlast]

theorem extends_makeAlong (t : Tree) (start : Place) (names : List FileName) :
    t.Extends (makeAlong start names.reverse t).1 := by
  induction names using List.reverseRecOn with
  | nil => exact .refl t
  | append_singleton above name ih =>
    rcases makeLast_cases t start (above ++ [name]) with
      ⟨o, -, hlast⟩ | ⟨-, -, -, -, -, hlast⟩ | ⟨p, u, -, hextends, -, hlast⟩
    · by_cases ho : o = .missing
      · subst ho
        rw [makeAlong_of_missing hlast]
        split
        · rename_i u habove
          rw [habove] at ih
          rcases makeLast_cases u start (above ++ [name]) with
            ⟨_, -, hagain⟩ | ⟨-, -, -, -, -, hagain⟩ | ⟨_, v, -, hextends, -, hagain⟩
          · rw [hagain]
            exact ih
          · rw [hagain]
            exact ih
          · rw [hagain]
            exact ih.trans hextends
        · exact ih
      · rw [makeAlong_of_stopped hlast ho]
        exact .refl t
    · rw [makeAlong_of_stopped hlast nofun]
      exact .refl t
    · rw [makeAlong_of_made hlast]
      exact hextends

theorem Makes.extends (h : t.Makes start names u) : t.Extends u := by
  have hextends := extends_makeAlong t start names
  rwa [h] at hextends

/-- What is made can be gone to. -/
theorem Makes.exists_follow (hstart : t.nodeAt? start = some .directory)
    (h : t.Makes start names u) :
    ∃ p, u.follow start names = .ok p ∧ u.nodeAt? p = some .directory := by
  induction names using List.reverseRecOn generalizing u with
  | nil =>
    cases h
    exact ⟨start, rfl, hstart⟩
  | append_singleton above name ih =>
    unfold Makes at h
    rcases makeLast_cases t start (above ++ [name]) with
      ⟨o, -, hlast⟩ | ⟨-, -, -, -, -, hlast⟩ | ⟨p, v, hfollow, hextends, hp, hlast⟩
    · by_cases ho : o = .missing
      · subst ho
        rw [makeAlong_of_missing hlast] at h
        split at h
        · rename_i v habove
          rcases makeLast_cases v start (above ++ [name]) with
            ⟨_, -, hagain⟩ | ⟨-, -, -, -, -, hagain⟩ | ⟨p, w, hfollow, hextends, hp, hagain⟩
          · rw [hagain] at h
            cases h
          · rw [hagain] at h
            cases h
          · rw [hagain] at h
            cases h
            exact ⟨p, hextends.follow_eq hfollow, hp⟩
        · rename_i hstopped
          exact absurd h (hstopped u)
      · rw [makeAlong_of_stopped hlast ho] at h
        cases h
    · rw [makeAlong_of_stopped hlast nofun] at h
      cases h
    · rw [makeAlong_of_made hlast] at h
      cases h
      exact ⟨p, hextends.follow_eq hfollow, hp⟩

/-- Directories that are there already are not made. -/
theorem makes_self (hp : t.follow start names = .ok p)
    (hdirectory : t.nodeAt? p = some .directory) :
    t.Makes start names t := by
  cases names using List.reverseRecOn with
  | nil => rfl
  | append_singleton above name =>
    exact makeAlong_of_made (makeLast_of_directory hp hdirectory)

/-- Among the names of directories that are to be made there is a first one that puts an end to it:
it is too long, or something else than a directory stands there. If this is on the way and has been
there before, the way is no way of directories; otherwise the directory is in its way. -/
inductive Obstructed (t : Tree) (start : Place) (names : List FileName) : Obstacle → Prop
  | tooLong {above behind : List FileName} {name : FileName} {u : Tree}
      (hnames : names = above ++ name :: behind) (hmade : t.Makes start above u)
      (h : longestName < name.length) : Obstructed t start names .tooLong
  | notDirectory {above behind : List FileName} {name : FileName} {p : Place} {n : Node}
      (hnames : names = above ++ name :: behind) (hbehind : behind ≠ [])
      (hp : t.follow start (above ++ [name]) = .ok p) (hn : t.nodeAt? p = some n)
      (hfile : n ≠ .directory) : Obstructed t start names .notDirectory
  | occupied {above behind : List FileName} {name : FileName} {u : Tree} {p : Place} {n : Node}
      (hnames : names = above ++ name :: behind) (hmade : t.Makes start above u)
      (hp : u.follow start (above ++ [name]) = .ok p) (hn : u.nodeAt? p = some n)
      (hfile : n ≠ .directory)
      (hbehind : behind = [] ∨ t.follow start (above ++ [name]) = .error .missing) :
      Obstructed t start names .occupied

/-- What is in the way of directories is in the way of one more that was not seen before. -/
theorem Obstructed.concat (h : t.Obstructed start above o)
    (hmissing : t.follow start (above ++ [name]) = .error .missing) :
    t.Obstructed start (above ++ [name]) o := by
  have hlonger {before behind : List FileName} {first : FileName}
      (hnames : above = before ++ first :: behind) :
      above ++ [name] = before ++ first :: (behind ++ [name]) := by
    simp [hnames]
  cases h with
  | tooLong hnames hmade hlong => exact .tooLong (hlonger hnames) hmade hlong
  | notDirectory hnames _ hp hn hfile =>
    exact .notDirectory (hlonger hnames) (by simp) hp hn hfile
  | @occupied before behind taken u p n hnames hmade hp hn hfile hbehind =>
    refine .occupied (hlonger hnames) hmade hp hn hfile (.inr ?_)
    rcases hbehind with rfl | hgap
    · rcases hmade.extends.follow_eq_or_missing hp with hthere | hgap
      · -- What is there would be told before the name behind it is missed.
        have hfound := hmade.extends.nodeAt?_of_file hn hfile
        rw [follow_concat, hnames, hthere, Except.bind, enter_of_file hfound hfile] at hmissing
        cases hmissing
      · exact hgap
    · exact hgap

/-- Names that lead nowhere do so from a first one on. -/
theorem exists_of_follow_error (h : t.follow start names = .error o) :
    ∃ above name behind p, names = above ++ name :: behind ∧ t.follow start above = .ok p ∧
      t.enter p name = .error o := by
  induction names using List.reverseRecOn with
  | nil => cases h
  | append_singleton before last ih =>
    cases hbefore : t.follow start before with
    | ok p =>
      rw [follow_concat, hbefore, Except.bind] at h
      exact ⟨before, last, [], p, rfl, hbefore, h⟩
    | error o' =>
      obtain rfl : o' = o := Except.error.inj ((follow_append_of_error hbefore [last]).symm.trans h)
      obtain ⟨above, name, behind, p, rfl, hp, henter⟩ := ih hbefore
      exact ⟨above, name, behind ++ [last], p, by simp, hp, henter⟩

/-- What puts an end to a way that has been there before. -/
theorem obstructed_of_follow_error (hstart : t.nodeAt? start = some .directory)
    (h : t.follow start names = .error o) (ho : o ≠ .missing) : t.Obstructed start names o := by
  obtain ⟨above, name, behind, p, rfl, hp, henter⟩ := exists_of_follow_error h
  cases hn : t.nodeAt? p with
  | none =>
    rw [enter_of_missing hn] at henter
    exact absurd (Except.error.inj henter).symm ho
  | some n =>
    by_cases hfile : n = .directory
    · subst hfile
      rw [enter_of_directory hn] at henter
      split at henter
      · rename_i hlong
        cases henter
        exact .tooLong rfl (makes_self hp hn) hlong
      · cases henter
    · rw [enter_of_file hn hfile] at henter
      cases henter
      cases above using List.reverseRecOn with
      | nil =>
        cases hp
        rw [hstart] at hn
        exact absurd (Option.some.inj hn).symm hfile
      | append_singleton above taken =>
        have hsplit : above ++ [taken] ++ name :: behind = above ++ taken :: name :: behind := by
          simp
        exact .notDirectory hsplit nofun hp hn hfile

theorem obstructed_of_makeAlong (hstart : t.nodeAt? start = some .directory)
    (h : (makeAlong start names.reverse t).2 = .error o) : t.Obstructed start names o := by
  induction names using List.reverseRecOn generalizing o with
  | nil => cases h
  | append_singleton above name ih =>
    rcases makeLast_cases t start (above ++ [name]) with
      ⟨o', hfollow, hlast⟩ | ⟨p, n, hp, hn, hfile, hlast⟩ | ⟨p, u, -, -, -, hlast⟩
    · by_cases ho : o' = .missing
      · subst ho
        rw [makeAlong_of_missing hlast] at h
        split at h
        · rename_i u hmade
          obtain ⟨q, hq, hdirectory⟩ := Makes.exists_follow hstart hmade
          rcases makeLast_cases u start (above ++ [name]) with
            ⟨o'', hagain, hlast⟩ | ⟨p, n, hp, hn, hfile, hlast⟩ | ⟨-, v, -, -, -, hlast⟩
          · rw [hlast] at h
            cases h
            rw [follow_concat, hq, Except.bind, enter_of_directory hdirectory] at hagain
            split at hagain
            · rename_i hlong
              cases hagain
              exact .tooLong rfl hmade hlong
            · cases hagain
          · rw [hlast] at h
            cases h
            exact .occupied rfl hmade hp hn hfile (.inl rfl)
          · rw [hlast] at h
            cases h
        · exact (ih h).concat hfollow
      · rw [makeAlong_of_stopped hlast ho] at h
        cases h
        exact obstructed_of_follow_error hstart hfollow ho
    · rw [makeAlong_of_stopped hlast nofun] at h
      cases h
      obtain ⟨r, hr, hdirectory, -⟩ := follow_concat_eq_ok_iff.mp hp
      exact .occupied rfl (makes_self hr hdirectory) hp hn hfile (.inl rfl)
    · rw [makeAlong_of_made hlast] at h
      cases h

/-- An end of the making is one for more names as well, where these do not lead to another. -/
theorem makeAlong_append_of_error (h : (makeAlong start names.reverse t).2 = .error o)
    (hfollow : t.follow start names = .error o ∨ t.follow start names = .error .missing)
    (behind : List FileName) : (makeAlong start (names ++ behind).reverse t).2 = .error o := by
  induction behind using List.reverseRecOn with
  | nil => simpa using h
  | append_singleton behind last ih =>
    rw [← List.append_assoc]
    have hlast {o' : Obstacle} (ho : t.follow start names = .error o') :
        t.makeLast start (names ++ behind ++ [last]) = .error o' := by
      rw [List.append_assoc]
      exact makeLast_of_follow_error (follow_append_of_error ho _)
    have hmissing (ho : t.follow start names = .error .missing) :
        (makeAlong start (names ++ behind ++ [last]).reverse t).2 = .error o := by
      rw [makeAlong_of_missing (hlast ho)]
      generalize makeAlong start (names ++ behind).reverse t = made at ih
      obtain ⟨u, _⟩ := made
      cases ih
      rfl
    rcases hfollow with ho | ho
    · by_cases hgap : o = .missing
      · exact hmissing (hgap ▸ ho)
      · rw [makeAlong_of_stopped (hlast ho) hgap]
    · exact hmissing ho

/-- Directories that are made are made for one more, and then that one is. -/
theorem makeAlong_of_makes (hmade : t.Makes start above u)
    (hmissing : t.follow start (above ++ [name]) = .error .missing)
    (h : u.makeLast start (above ++ [name]) = .error o) :
    (makeAlong start (above ++ [name]).reverse t).2 = .error o := by
  have habove : makeAlong start above.reverse t = (u, .ok ()) := hmade
  rw [makeAlong_of_missing (makeLast_of_follow_error hmissing), habove]
  simp only [h]

/-- A name that is too long is found to be so, unless something above it is missing. -/
theorem Makes.follow_tooLong (hstart : t.nodeAt? start = some .directory)
    (hmade : t.Makes start above u) (hlong : longestName < name.length) :
    t.follow start (above ++ [name]) = .error .tooLong ∨
      t.follow start (above ++ [name]) = .error .missing := by
  obtain ⟨q, hq, hdirectory⟩ := hmade.exists_follow hstart
  rcases hmade.extends.follow_eq_or_missing hq with hthere | hmissing
  · rcases hmade.extends.nodes q with hsame | ⟨hnone, -⟩
    · left
      rw [follow_concat, hthere, Except.bind, enter_of_directory (hsame ▸ hdirectory),
        if_pos hlong]
    · right
      rw [follow_concat, hthere, Except.bind, enter_of_missing hnone]
  · exact .inr (follow_append_of_error hmissing [name])

/-- Nothing is behind a node that is no directory. -/
theorem follow_behind_file (hp : t.follow start (above ++ [name]) = .ok p)
    (hn : t.nodeAt? p = some n) (hfile : n ≠ .directory) (hbehind : behind ≠ []) :
    t.follow start (above ++ name :: behind) = .error .notDirectory := by
  cases behind with
  | nil => exact absurd rfl hbehind
  | cons next behind =>
    have hnext : t.follow start (above ++ [name] ++ [next]) = .error .notDirectory := by
      rw [follow_concat, hp, Except.bind, enter_of_file hn hfile]
    simpa using follow_append_of_error hnext behind

theorem makeAlong_of_obstructed (hstart : t.nodeAt? start = some .directory)
    (h : t.Obstructed start names o) : (makeAlong start names.reverse t).2 = .error o := by
  cases h with
  | @tooLong above behind name u hnames hmade hlong =>
    subst hnames
    have hfollow := hmade.follow_tooLong hstart hlong
    rw [List.append_cons]
    refine makeAlong_append_of_error ?_ hfollow behind
    rcases hfollow with hlongAlready | hmissing
    · rw [makeAlong_of_stopped (makeLast_of_follow_error hlongAlready) nofun]
    · obtain ⟨q, hq, hdirectory⟩ := hmade.exists_follow hstart
      refine makeAlong_of_makes hmade hmissing (makeLast_of_follow_error ?_)
      rw [follow_concat, hq, Except.bind, enter_of_directory hdirectory, if_pos hlong]
  | @notDirectory above behind name p n hnames hbehind hp hn hfile =>
    subst hnames
    have hend := follow_behind_file hp hn hfile hbehind
    obtain ⟨before, last, rfl⟩ : ∃ before last, behind = before ++ [last] :=
      ⟨_, _, (List.dropLast_concat_getLast hbehind).symm⟩
    rw [← List.cons_append, ← List.append_assoc] at hend ⊢
    rw [makeAlong_of_stopped (makeLast_of_follow_error hend) nofun]
  | @occupied above behind name u p n hnames hmade hp hn hfile hbehind =>
    subst hnames
    have htaken : u.makeLast start (above ++ [name]) = .error .occupied :=
      makeLast_of_file hp hn hfile
    rw [List.append_cons]
    rcases hmade.extends.follow_eq_or_missing hp with hthere | hmissing
    · have hfound := hmade.extends.nodeAt?_of_file hn hfile
      rcases hbehind with rfl | hgap
      · rw [List.append_nil, makeAlong_of_stopped (makeLast_of_file hthere hfound hfile) nofun]
      · rw [hgap] at hthere
        cases hthere
    · exact makeAlong_append_of_error (makeAlong_of_makes hmade hmissing htaken) (.inr hmissing)
        behind

/-! Paths. -/

theorem obstacleIn?_eq_some_iff {path : FileName} : obstacleIn? path = some o ↔
    (0 ∈ path ∧ o = .embeddedNul) ∨
      0 ∉ path ∧ longestPath < path.length ∧ o = .tooLong := by
  unfold obstacleIn?
  split <;> simp_all [eq_comm]

theorem obstacleIn?_eq_none_iff {path : FileName} :
    obstacleIn? path = none ↔ 0 ∉ path ∧ path.length ≤ longestPath := by
  unfold obstacleIn?
  split <;> simp_all

theorem makeDirectories_of_obstacle (h : obstacleIn? (Text.encodeUtf8 path) = some o) :
    t.makeDirectories path = (t, .error (o.surprise path)) := by
  simp only [makeDirectories, h]

/-- A path that may lead somewhere is made name by name. -/
theorem makeDirectories_eq_makeAlong (h : obstacleIn? (Text.encodeUtf8 path) = none) :
    t.makeDirectories path =
      (makeAlong (Place.startOf (Text.encodeUtf8 path))
        (Place.namesIn (Text.encodeUtf8 path)).reverse t).map id
          (Except.mapError (Obstacle.surprise path)) := by
  simp only [makeDirectories, h, Prod.map, id]

/-- The directory of a path and those above it cannot be made. -/
inductive Unmakeable (t : Tree) (path : String) : Surprise → Prop
  | embeddedNul (h : 0 ∈ Text.encodeUtf8 path) : Unmakeable t path .embeddedNul
  | tooLong (hnul : 0 ∉ Text.encodeUtf8 path) (h : longestPath < (Text.encodeUtf8 path).length) :
      Unmakeable t path (.pathTooLong path)
  | obstructed {o : Obstacle} (hnul : 0 ∉ Text.encodeUtf8 path)
      (hlength : (Text.encodeUtf8 path).length ≤ longestPath)
      (h : t.Obstructed (Place.startOf (Text.encodeUtf8 path))
        (Place.namesIn (Text.encodeUtf8 path))
        o) : Unmakeable t path (o.surprise path)

theorem makeDirectories_eq_error_iff :
    (t.makeDirectories path).2 = .error e ↔ t.Unmakeable path e := by
  have hstart := nodeAt?_startOf t (Text.encodeUtf8 path)
  constructor
  · intro h
    cases hobstacle : obstacleIn? (Text.encodeUtf8 path) with
    | some o =>
      rw [makeDirectories_of_obstacle hobstacle] at h
      cases h
      rcases obstacleIn?_eq_some_iff.mp hobstacle with ⟨hnul, rfl⟩ | ⟨hnul, hlong, rfl⟩
      · exact .embeddedNul hnul
      · exact .tooLong hnul hlong
    | none =>
      obtain ⟨hnul, hlength⟩ := obstacleIn?_eq_none_iff.mp hobstacle
      rw [makeDirectories_eq_makeAlong hobstacle, Prod.map_snd] at h
      cases hmade : (makeAlong (Place.startOf (Text.encodeUtf8 path))
          (Place.namesIn (Text.encodeUtf8 path)).reverse t).2 with
      | ok _ =>
        rw [hmade] at h
        cases h
      | error o =>
        rw [hmade] at h
        cases h
        exact .obstructed hnul hlength (obstructed_of_makeAlong hstart hmade)
  · intro h
    cases h with
    | embeddedNul hnul =>
      rw [makeDirectories_of_obstacle (obstacleIn?_eq_some_iff.mpr (.inl ⟨hnul, rfl⟩))]
      rfl
    | tooLong hnul hlong =>
      rw [makeDirectories_of_obstacle (obstacleIn?_eq_some_iff.mpr (.inr ⟨hnul, hlong, rfl⟩))]
      rfl
    | obstructed hnul hlength ho =>
      rw [makeDirectories_eq_makeAlong (obstacleIn?_eq_none_iff.mpr ⟨hnul, hlength⟩),
        Prod.map_snd, makeAlong_of_obstructed hstart ho]
      rfl

/-- Making directories makes nothing else. -/
theorem extends_makeDirectories (t : Tree) (path : String) :
    t.Extends (t.makeDirectories path).1 := by
  unfold makeDirectories
  dsimp only
  split
  · exact .refl t
  · exact extends_makeAlong t _ _

end Tree

end PeopleFeed.Disk
