import ScreenScript.Engine.Evaluation
import ScreenScript.Host.World

/-!
The engine: at most one runtime at a time, which binds a host to a session of scripts. The console
and the interrupt flag outlive the runtimes.
-/

namespace ScreenScript

/-- A host and what the scripts left behind since it was installed. -/
structure Runtime (σ : Type) where
  host : Host σ
  session : Script.Session := {}

structure Engine (σ : Type) where
  config : Config
  world : World σ
  runtime : Option (Runtime σ) := none
  /-- The steps within each other that an evaluation may take. -/
  bound : Nat := 1000000

namespace Engine

variable {σ : Type}

def target : String := "automate::engine"

def ofConfig (config : Config) (state : σ) : Engine σ :=
  { config, world := { state, attached := false, console := { capacity := config.logCapacity } } }

def isReady (e : Engine σ) : Bool := e.runtime.isSome

def destroy (e : Engine σ) : Engine σ :=
  match e.runtime with
  | some _ =>
    { e with
      runtime := none
      world := e.world.detach.note
        { level := .info, target := target, message := "engine destroyed" } }
  | none => e

def install (e : Engine σ) (host : Host σ) : Engine σ :=
  let e := e.destroy
  { e with
    runtime := some { host }
    world := { e.world with pending := false, attached := true }.note
      { level := .info, target := target, message := "engine initialized"
        fields := [("memory_limit", toString e.config.memoryLimit)] } }

/-- Requests that the present or next evaluation be cancelled. -/
def interrupt (e : Engine σ) : Engine σ :=
  { e with world := { e.world with pending := true } }

def setSink (e : Engine σ) (sink : Option Nat) : Engine σ :=
  { e with world := { e.world with console := e.world.console.setSink sink } }

def logs (e : Engine σ) : List Message := e.world.console.entries

def started (name : String) : Log.Event :=
  { level := .debug, target := target, message := "evaluate"
    fields := [("source_name", Text.quoted name)] }

def failed (name : String) (err : EvalError) : Log.Event :=
  { level := .debug, target := target, message := "evaluation failed"
    fields := [("source_name", Text.quoted name), ("err", err.message)] }

def noteFailure (name : String) (r : Option (Except EvalError String)) (w : World σ) : World σ :=
  match r with
  | some (.error err) => w.note (failed name err)
  | _ => w

/-- Runs a source in the session, unless an interrupt is pending. The flag is clear afterwards. There
is no outcome when the bound is reached. -/
def evaluateIn (e : Engine σ) (rt : Runtime σ) (source name : String) :
    Option (Except EvalError String) × Engine σ :=
  let w := e.world.note (started name)
  let ((r, session), w) :=
    if w.pending then ((some (.error .cancelled), rt.session), w)
    else World.run rt.host (evaluation e.config e.bound source name rt.session) w
  (r, { e with
    runtime := some { rt with session }
    world := noteFailure name r { w with pending := false } })

def evaluate (e : Engine σ) (source name : String) :
    Option (Except EvalError String) × Engine σ :=
  match e.runtime with
  | some rt => e.evaluateIn rt source name
  | none => (some (.error .notInitialized), e)

/-- The one text an embedder gets: the value, `undefined` after an exit, or the error's message. -/
def answerText : Except EvalError String → String
  | .ok s => s
  | .error .exited => "undefined"
  | .error err => err.message

def debug (e : Engine σ) : String :=
  "Engine \x7b config: " ++ e.config.debug ++ ", initialized: " ++
    (if e.isReady then "true" else "false") ++ " \x7d"

end Engine

end ScreenScript
