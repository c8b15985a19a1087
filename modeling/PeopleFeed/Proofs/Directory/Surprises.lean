import PeopleFeed.Proofs.Directory.Privacy
import PeopleFeed.Proofs.Disk.Opening
import PeopleFeed.Proofs.Search.Faults

/-! What nobody provides for in a run that asks a directory database: there is no connection to the
database at all, or the search comes upon a document or a response that nobody provides for. The
database itself answers, refuses or fails. -/
namespace PeopleFeed

namespace Search

variable {codec : Json.Codec} {path : String} {content : Json.File} {e : Surprise} {source : Source}

/-- The next pull comes upon what nobody provides for: a file that nests too deep, or such a
response. -/
inductive Source.Surprises : Source → Surprise → Prop
  | nested {codec : Json.Codec} {path : String} {content : Json.File} {bracket : Json.Bracket}
      (h : content.NestsTooDeep codec bracket) :
      Surprises (.file codec path content .unread) (.nestedTooDeep bracket)
  | received {endpoint : Endpoint} {paging : Paging} {ahead : List Transport}
      {sent : List PageRequest} {t : Transport} {e : Surprise}
      (hreceived : preparedServer.received? endpoint (paging, ahead, sent) = some t)
      (h : t.Surprises endpoint e) : Surprises (.endpoint endpoint paging ahead sent) e

end Search

namespace Directory

open PeopleFeed.Feed (Call)

section

variable {α β : Type} {x : Except Fault α}

/-- Nothing comes up that nobody provides for. -/
def IsForeseen (x : Except Fault α) : Prop :=
  ∀ e, x ≠ .error (.surprise e)

theorem isForeseen_ok (a : α) : IsForeseen (.ok a) :=
  fun _ => nofun

theorem IsForeseen.map (h : IsForeseen x) (f : α → β) : IsForeseen (x.map f) := by
  cases x with
  | ok a => exact isForeseen_ok (f a)
  | error fault => exact fun e he => h e (congrArg Except.error (Except.error.inj he))

theorem IsForeseen.bind (h : IsForeseen x) {f : α → Except Fault β}
    (hf : ∀ a, IsForeseen (f a)) : IsForeseen (x.bind f) := by
  cases x with
  | ok a => exact hf a
  | error fault => exact fun e he => h e (congrArg Except.error (Except.error.inj he))

end

namespace Database

end Database

variable {viewer : String} {b : Backend} {call : Call} {e : Surprise}

end Directory

end PeopleFeed
