import PeopleFeed.Command.Listing
import PeopleFeed.Command.Seeding

/-!
Running the program: the environment file is loaded, the settings and the arguments are read, the
journal is opened, and the task is done.
-/
namespace PeopleFeed.Command

open PeopleFeed.Environment (Variables)

/-- The version of the program. -/
def version : String := "0.1.0"

/-- The path of the environment file. -/
def environmentPath : String := ".env"

/-- Does a task. -/
def Task.run (p : Platform) (s : Settings) (a : Surroundings) : Task → Report × Surroundings
  | .related o => Command.related p o s a
  | .seed o => Command.seed p o s a
  | .list o => Command.list p o s a

/-- The settings in the surroundings of some variables, or why there are none. -/
def settingsAround (p : Platform) (vars : Variables) (a : Surroundings) :
    Except Report Settings :=
  match Environment.load p.environment vars (a.disk.file p.engine environmentPath) with
  | .error e => .error (.surprised e)
  | .ok (_, vars) =>
    (Settings.ofVariables vars).mapError fun b =>
      .refused ("Invalid configuration: " ++ b.message)

/-- The level of the journal: the one asked for, or else that of the settings. -/
def Invocation.level (i : Invocation) (s : Settings) : Except Surprise Log.Level :=
  match i.logLevel with
  | some (some l) => .ok l
  | some none => .error (.valueMissing levelSwitch.name)
  | none => .ok s.logLevel

/-- Does what an invocation asks for. -/
def Invocation.run (p : Platform) (i : Invocation) (s : Settings) (a : Surroundings) :
    Report × Surroundings :=
  if i.showsVersion then (.done (version ++ "\n"), a)
  else
    match i.level s with
    | .error e => (.surprised e, a)
    | .ok level =>
      match a.openJournal s.logDirectory level with
      | (a, .error e) => (.surprised e, a)
      | (a, .ok ()) =>
        match i.task with
        | some task => task.run p s a
        | none => (.ofRefusal (.help .program), a)

/-- Runs the program. -/
def run (p : Platform) (args : List String) (vars : Variables) (a : Surroundings) :
    Report × Surroundings :=
  match settingsAround p vars a with
  | .error report => (report, a)
  | .ok s =>
    match Invocation.read args with
    | .error refusal => (.ofRefusal refusal, a)
    | .ok i => i.run p s a

end PeopleFeed.Command
