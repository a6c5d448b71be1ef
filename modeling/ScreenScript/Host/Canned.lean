import ScreenScript.Host.World
import ScreenScript.Json.Value

/-!
Hosts that replay prepared answers. Each verb has a list of them: a call takes the first, and the
last one stays.
-/

namespace ScreenScript.Canned

abbrev Table := List (String × List String)

def answers (t : Table) (verb : String) : List String :=
  ((t.find? (·.1 = verb)).map (·.2)).getD []

def consume (as : List String) : List String :=
  if as.length ≤ 1 then as else as.drop 1

def next (t : Table) (verb : String) : Option String × Table :=
  ((answers t verb).head?, t.map fun e => if e.1 = verb then (e.1, consume e.2) else e)

def respond (t : Table) (verb answer : String) : Table :=
  if t.any (·.1 = verb) then
    t.map fun e => if e.1 = verb then (e.1, e.2 ++ [answer]) else e
  else t ++ [(verb, [answer])]

def answerText : Json.Value → String
  | .string s => s
  | v => v.text

def answerList : Json.Value → List String
  | .array vs => vs.map answerText
  | v => [answerText v]

inductive FixtureError where
  | unreadable (path reason : String)
  /-- The text is not JSON; what is wrong with it is the reader's to say. -/
  | malformed
  | notAnObject
  deriving DecidableEq

def FixtureError.message : FixtureError → String
  | unreadable path reason => "failed to read fixture " ++ path ++ ": " ++ reason
  | malformed => "invalid fixture: malformed text"
  | notAnObject => "invalid fixture: expected an object mapping verbs to answers"

def ofJson (s : String) : Except FixtureError Table :=
  match Json.Value.parse? s with
  | some (.object ms) => .ok (ms.map fun (verb, v) => (verb, answerList v))
  | some _ => .error .notAnObject
  | none => .error .malformed

def ofFile (path : String) (text : Except String String) : Except FixtureError Table :=
  match text with
  | .ok s => ofJson s
  | .error reason => .error (.unreadable path reason)

def fixtureHost : Host Table := fun verb args =>
  .get fun t =>
    let (a, t) := next t verb
    .put t fun _ =>
      .note { level := .info, target := "automate::host", message := "host call"
              fields := [("verb", Text.quoted verb), ("args", Log.quotedList args),
                ("answer", Log.quotedOption a)] } fun _ =>
        .answer a

/-- A table together with the record of the calls made, the last first. -/
structure Recorder where
  table : Table
  calls : List Call := []

def recordingHost : Host Recorder := fun verb args =>
  .get fun r =>
    let (a, t) := next r.table verb
    .put ⟨t, ⟨verb, args⟩ :: r.calls⟩ fun _ => .answer a

end ScreenScript.Canned
