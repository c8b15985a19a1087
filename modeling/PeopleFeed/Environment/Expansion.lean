import PeopleFeed.Environment.Assignments
import PeopleFeed.Environment.Variables

/-!
A reader of environment files. A value may refer to variables and to earlier assignments of the
file.
-/
namespace PeopleFeed.Environment

namespace Bindings

/-- Binds a name. -/
def bind (name : String) (value : Option String) : Bindings → Bindings
  | [] => [(name, value)]
  | (k, v) :: rest => if k = name then (k, value) :: rest else (k, v) :: bind name value rest

/-- What a name refers to: the variable, or else the binding. Where neither is there the default
stands; a binding without a value is empty. -/
def resolve (vs : Variables) (bs : Bindings) (name : String) (default : Option String) : String :=
  match vs.get? name with
  | some value => value
  | none =>
    match List.lookup name bs with
    | some value => value.getD ""
    | none => default.getD ""

end Bindings

/-- A reference `${name}` or `${name:-default}` behind its opening, and what is
left. -/
def reference? (cs : List Char) : Option (List Char × Option (List Char) × List Char) :=
  let isNamePart (c : Char) : Bool := c != '}' && c != ':'
  match cs.dropWhile isNamePart with
  | '}' :: rest => some (cs.takeWhile isNamePart, none, rest)
  | ':' :: '-' :: more =>
    match more.dropWhile (· != '}') with
    | '}' :: rest => some (cs.takeWhile isNamePart, some (more.takeWhile (· != '}')), rest)
    | _ => none
  | _ => none

theorem length_of_reference? {cs name rest : List Char} {default : Option (List Char)}
    (h : reference? cs = some (name, default, rest)) : rest.length < cs.length := by
  have drop_le (p : Char → Bool) (l : List Char) : (l.dropWhile p).length ≤ l.length :=
    (List.dropWhile_suffix p).length_le
  unfold reference? at h
  simp only at h
  split at h
  next r hr =>
    have := drop_le (fun c => c != '}' && c != ':') cs
    rw [hr, List.length_cons] at this
    cases h
    omega
  next more hr =>
    have hc := drop_le (fun c => c != '}' && c != ':') cs
    rw [hr, List.length_cons, List.length_cons] at hc
    split at h
    next r hm =>
      have := drop_le (· != '}') more
      rw [hm, List.length_cons] at this
      cases h
      omega
    next => cases h
  next => cases h

/-- A text with its references replaced. -/
def expandChars (resolve : String → Option String → String) (cs : List Char) : List Char :=
  match cs with
  | '$' :: '{' :: rest =>
    match _h : reference? rest with
    | some (name, default, rest) =>
      (resolve (String.ofList name) (default.map String.ofList)).toList ++
        expandChars resolve rest
    | none => '$' :: expandChars resolve ('{' :: rest)
  | c :: rest => c :: expandChars resolve rest
  | [] => []
termination_by cs.length
decreasing_by
  · have := length_of_reference? _h
    simp only [List.length_cons]
    omega
  · simp
  · simp

def expand (resolve : String → Option String → String) (text : String) : String :=
  String.ofList (expandChars resolve text.toList)

/-- The bindings of assignments in their order. -/
def bindAll (vs : Variables) (assignments : List Assignment) : Bindings :=
  assignments.foldl
    (fun bs a => bs.bind a.name (a.value.map (expand (Bindings.resolve vs bs)))) []

/-- The bindings of the assignments in a text. -/
def readBindings : Reader :=
  fun vs text => bindAll vs (readAssignments text)

end PeopleFeed.Environment
