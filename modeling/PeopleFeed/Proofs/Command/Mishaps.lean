import PeopleFeed.Command.Related
import PeopleFeed.Proofs.Directory.Surprises
import PeopleFeed.Proofs.Feed.Boundary

/-! What upsets a run that a command makes: the search or the connection to the database fails in a
way that nobody provides for, the text of a question cannot be encoded, or a note about a candidate
cannot be written. -/
namespace PeopleFeed.Command

open PeopleFeed.Directory (Backend Database)
open PeopleFeed.Feed (Call Count Event Order Policy assemble)

variable {τ : Type} {p : Platform} {viewer : String} {b : Backend} {call : Call} {e : Surprise}

/-- The next answer of the collaborators of a command comes upon a surprise. -/
inductive Upsets (p : Platform) (viewer : String) (b : Backend) : Call → Surprise → Prop
  | pulled {e : Surprise} (h : b.search.Surprises e) : Upsets p viewer b .pull e
  | unnoted {candidate : Search.Candidate} {note : Log.Note} {error : Json.WriteError}
      (hpulled : b.search.pull.answer = .ok (some candidate))
      (hkind : candidate.kind = .unrecognized)
      (hnote : (Event.unrecognized candidate).note? = some note)
      (h : note.error? (p.codec .notes) = some error) : Upsets p viewer b .pull (.unwritable error)
  | barred {call : Call} {e : Surprise} (hcall : call ≠ .pull) (h : b.database = .error e) :
      Upsets p viewer b call e
  | torn {call : Call} {db : Database} {a : call.Answer} {error : Text.EncodeError}
      (hcall : call ≠ .pull) (hdatabase : b.database = .ok db)
      (hanswer : db.answer viewer call = .ok a)
      (h : p.standins.tearIn? (textsIn call) = some error) :
      Upsets p viewer b call (.unencodable error)

/-- A command is given only such answers as the database and the search give. -/
theorem answer_of_respond {a : call.Answer}
    (h : ((collaborators p viewer).respond call b).answer = .ok a) :
    ((Directory.collaborators viewer).respond call b).answer = .ok a := by
  simp only [collaborators] at h
  cases hanswer : ((Directory.collaborators viewer).respond call b).answer with
  | error fault =>
    rw [hanswer] at h
    cases h
  | ok a' =>
    rw [hanswer] at h
    simp only [Except.bind] at h
    split at h
    · cases h
    · exact h

variable {policy : Policy} {o : Order} {quota : Count} {fieldNames : List String} {fuel : Nat}
  {sh : Shuffler τ} {shuffler : τ}

end PeopleFeed.Command
