import ScreenScript.Log.Event

/-!
The script console: it keeps the last messages up to its capacity, and hands every message to the
sink that is installed at that time.
-/

namespace ScreenScript

inductive Severity where
  | log
  | info
  | warn
  | error
  | debug
  deriving DecidableEq, Repr

def Severity.all : List Severity := [log, info, warn, error, debug]

def Severity.name : Severity → String
  | log => "log"
  | info => "info"
  | warn => "warn"
  | error => "error"
  | debug => "debug"

structure Message where
  severity : Severity
  text : String
  deriving DecidableEq

def Message.event (m : Message) : Log.Event :=
  { level := match m.severity with
      | .log => .info
      | .info => .info
      | .warn => .warn
      | .error => .error
      | .debug => .debug
    target := "automate::script"
    message := m.text }

/-- Sinks are told apart by number; `delivered` lists what each one got, the last first. -/
structure Console where
  capacity : Nat
  /-- Oldest first. -/
  entries : List Message := []
  sink : Option Nat := none
  delivered : List (Nat × Message) := []

namespace Console

def retain (capacity : Nat) (entries : List Message) (m : Message) : List Message :=
  if capacity = 0 then entries
  else if capacity ≤ entries.length then entries.drop 1 ++ [m]
  else entries ++ [m]

def emit (c : Console) (m : Message) : Console :=
  { c with
    entries := retain c.capacity c.entries m
    delivered := match c.sink with
      | some s => (s, m) :: c.delivered
      | none => c.delivered }

def clear (c : Console) : Console :=
  { c with entries := [] }

def setSink (c : Console) (sink : Option Nat) : Console :=
  { c with sink }

def debug (c : Console) : String :=
  "Console \x7b capacity: " ++ toString c.capacity ++ ", len: " ++ toString c.entries.length ++
    " \x7d"

end Console

end ScreenScript
