import ScreenScript.CommandLine.Arguments
import ScreenScript.Config.Reader
import ScreenScript.Engine
import ScreenScript.Host.Canned
import ScreenScript.Log.Filter

/-!
What a request puts out and with which code it ends. Diagnostic events are reported among the
complaints, in the order in which both arise.
-/

namespace ScreenScript.CommandLine

structure Surroundings where
  /-- The text of a file, or why there is none. -/
  file : String → Except String String
  logFilter : Option String := none
  bound : Nat := 1000000

def noSuchFile : String := "No such file or directory (os error 2)"

structure Outcome where
  code : Nat
  output : String := ""
  complaints : String := ""
  deriving DecidableEq

namespace Outcome

def success : Nat := 0
def failure : Nat := 1
def misuse : Nat := 2
def cancelled : Nat := 130

def version : String := "automate 0.0.1\n"

def usage : String :=
  "Usage: automate [--trace | --debug] [--log-level LEVEL] [--log-filter FILTER] COMMAND\n\n" ++
    "Commands:\n" ++
    "  run SCRIPT [--config FILE] [--host FILE] [--timeout-ms N]\n" ++
    "  check SCRIPT\n"

/-- The lines of the events that pass, the last event given first. -/
def lines (f : Log.Filter) (notes : List Log.Event) : String :=
  String.join ((notes.reverse.filter f.allows).map fun e => e.line ++ "\n")

def refused (message : String) : Outcome :=
  { code := failure, complaints := message ++ "\n" }

def ofResult : Except EvalError String → Outcome
  | .ok v => { code := success, output := v ++ "\n" }
  | .error .exited => { code := success }
  | .error .cancelled => { code := cancelled, complaints := EvalError.cancelled.message ++ "\n" }
  | .error err => { code := failure, complaints := err.pretty ++ "\n" }

def readScript (s : Surroundings) (path : String) : Except String String :=
  (s.file path).mapError fun reason => "failed to read " ++ path ++ ": " ++ reason

/-- The script's text, the configuration and the host's answers; the first that cannot be had is
complained of. -/
def inputs (s : Surroundings) (r : Run) : Except String (String × Config × Canned.Table) := do
  let source ← readScript s r.script
  let config ← match r.config with
    | some path => (Config.ofFile path (s.file path)).mapError Config.LoadError.message
    | none => pure {}
  let table ← match r.host with
    | some path => (Canned.ofFile path (s.file path)).mapError Canned.FixtureError.message
    | none => pure []
  pure (source, config, table)

def running (script : String) : Log.Event :=
  { level := .debug, target := "automate", message := "running", fields := [("script", script)] }

def engineOf (s : Surroundings) (r : Run) (config : Config) (table : Canned.Table) :
    Engine Canned.Table :=
  let e := { Engine.ofConfig config table with bound := s.bound }.install Canned.fixtureHost
  { e with world := { e.world with deadline := r.timeoutMs }.note (running r.script) }

/-- A script that does not come to an end within the bound is taken to run until its time is up. -/
def interrupted (r : Run) (e : Engine Canned.Table) : Engine Canned.Table :=
  let w := match r.timeoutMs with
    | some ms => e.world.expire ms
    | none => e.world
  { e with world := { w with pending := false }.note (Engine.failed r.script .cancelled) }

def evaluated (f : Log.Filter) (r : Run) (source : String) (e : Engine Canned.Table) : Outcome :=
  let (result, e) := match e.evaluate source r.script with
    | (some result, e) => (result, e)
    | (none, e) => (.error .cancelled, interrupted r e)
  let before := e.world.notes
  let after := e.destroy.world.notes
  let o := ofResult result
  { o with
    complaints := lines f before ++ o.complaints ++
      lines f (after.take (after.length - before.length)) }

def ofRun (s : Surroundings) (f : Log.Filter) (r : Run) : Outcome :=
  match inputs s r with
  | .error message => refused message
  | .ok (source, config, table) => evaluated f r source (engineOf s r config table)

def ofCheck (s : Surroundings) (script : String) : Outcome :=
  match readScript s script with
  | .error message => refused message
  | .ok source => match Engine.checkSyntax source script with
    | .ok () => { code := success, output := "OK\n" }
    | .error err => refused err.pretty

def loggingStarted (spec : String) : Log.Event :=
  { level := .debug, target := "logging", message := "logging initialized"
    fields := [("spec", spec)] }

def ofInvocation (s : Surroundings) (i : Invocation) : Outcome :=
  let spec := Log.Spec.choose i.switches s.logFilter
  let f := Log.Filter.ofSpec spec
  let o := match i.command with
    | .run r => ofRun s f r
    | .check script => ofCheck s script
  { o with
    complaints := String.join ((Log.Filter.complaints spec).map (· ++ "\n")) ++
      lines f [loggingStarted spec] ++ o.complaints }

def ofWords (s : Surroundings) (words : List String) : Outcome :=
  match Request.ofWords? words with
  | none => { code := misuse, complaints := usage }
  | some .version => { code := success, output := version }
  | some .help => { code := success, output := usage }
  | some (.perform i) => ofInvocation s i

end Outcome

end ScreenScript.CommandLine
