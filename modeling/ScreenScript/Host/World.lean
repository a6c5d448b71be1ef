import ScreenScript.Error
import ScreenScript.Host.Program

/-!
The world a program runs in: a host behind a bridge, the interrupt flag, the console and a clock.
While a host answers it may do more than answer: request an interrupt, try to evaluate a script on
the engine that is calling it, call the bridge again, or release itself.
-/

namespace ScreenScript

structure Call where
  verb : String
  args : List String
  deriving DecidableEq

inductive Reaction (σ : Type) where
  | answer (a : Option String)
  | get (next : σ → Reaction σ)
  | put (s : σ) (next : Unit → Reaction σ)
  | interrupt (next : Unit → Reaction σ)
  | evaluate (source name : String) (next : Except EvalError String → Reaction σ)
  | call (verb : String) (args : List String) (next : Option String → Reaction σ)
  | detach (next : Unit → Reaction σ)
  | note (e : Log.Event) (next : Unit → Reaction σ)

abbrev Host (σ : Type) := String → List String → Reaction σ

structure World (σ : Type) where
  state : σ
  attached : Bool := true
  pending : Bool := false
  console : Console
  /-- The calls the host received, the last first. -/
  calls : List Call := []
  /-- The events noted, the last first. -/
  notes : List Log.Event := []
  clock : Nat := 0
  /-- When an interrupt is requested from outside, and after how many milliseconds that is. -/
  deadline : Option Nat := none

namespace World

variable {σ α : Type}

def note (w : World σ) (e : Log.Event) : World σ :=
  { w with notes := e :: w.notes }

def bridgeTarget : String := "automate::bridge"

def expire (w : World σ) (ms : Nat) : World σ :=
  { w.note { level := .warn, target := "automate", message := "script timed out; interrupting"
             fields := [("timeout_ms", toString ms)] } with pending := true, deadline := none }

def wait (w : World σ) (ms : Nat) : World σ :=
  let w := { w with clock := w.clock + ms }
  match w.deadline with
  | some d => if d ≤ w.clock then w.expire d else w
  | none => w

/-- Releases the host; it is never called again. -/
def detach (w : World σ) : World σ :=
  if w.attached then
    { w with attached := false }.note
      { level := .debug, target := bridgeTarget, message := "host capability released" }
  else w

def bridgeDebug (w : World σ) : String :=
  "Bridge \x7b attached: " ++ (if w.attached then "true" else "false") ++ " \x7d"

def emit (w : World σ) (m : Message) : World σ :=
  { w with console := w.console.emit m }.note m.event

/-- Carries out a reaction. `inner` answers the calls the host makes while it is being called, and an
evaluation it asks for is refused, since the engine is running. -/
def perform (inner : String → List String → World σ → Option String × World σ) :
    Reaction σ → World σ → Option String × World σ
  | .answer a, w => (a, w)
  | .get next, w => perform inner (next w.state) w
  | .put s next, w => perform inner (next ()) { w with state := s }
  | .interrupt next, w => perform inner (next ()) { w with pending := true }
  | .evaluate _ _ next, w => perform inner (next (.error .busy)) w
  | .call verb args next, w =>
    let (a, w) := inner verb args w
    perform inner (next a) w
  | .detach next, w => perform inner (next ()) w.detach
  | .note e next, w => perform inner (next ()) (w.note e)

/-- How many calls may be under way within each other, where nothing else is said. -/
def maxReentry : Nat := 1000

/-- One call over the bridge. A host that is gone, or calls itself without end, answers nothing. -/
def call (h : Host σ) : Nat → String → List String → World σ → Option String × World σ
  | 0, _, _, w => (none, w)
  | depth + 1, verb, args, w =>
    let quotedVerb := ("verb", Text.quoted verb)
    if w.attached then
      let w := { w with calls := ⟨verb, args⟩ :: w.calls }.note
        { level := .trace, target := bridgeTarget, message := "host call"
          fields := [quotedVerb, ("argc", toString args.length)] }
      let (a, w) := perform (call h depth) (h verb args) w
      (a, w.note { level := .trace, target := bridgeTarget, message := "host call returned"
                   fields := [quotedVerb, ("answered", if a.isSome then "true" else "false")] })
    else
      (none, w.note { level := .debug, target := bridgeTarget
                      message := "no host capability installed", fields := [quotedVerb] })

def run (h : Host σ) (p : Program α) (w : World σ) (depth : Nat := maxReentry) : α × World σ :=
  match p with
  | .done a => (a, w)
  | .ask verb args next =>
    let (a, w) := w.call h depth verb args
    run h (next a) w depth
  | .poll next => run h (next w.pending) w depth
  | .pause ms next => run h (next ()) (w.wait ms) depth
  | .emit m next => run h (next ()) (w.emit m) depth
  | .note e next => run h (next ()) (w.note e) depth

end World

end ScreenScript
