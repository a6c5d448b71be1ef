/-!
The tunables of an engine.
-/

namespace ScreenScript

/-- All numbers are unsigned words. -/
structure Config where
  /-- The ceiling for the data of a script, in bytes. -/
  memoryLimit : Nat := 268435456
  /-- The operations one evaluation may take; zero for any number. -/
  maxOperations : Nat := 0
  /-- How many script functions may be called within each other, if not the usual number. -/
  maxCallLevels : Option Nat := none
  /-- The pause between the tap and the text when text is set on a node. -/
  settleDelayMs : Nat := 100
  defaultWaitTimeoutMs : Nat := 10000
  /-- The longest part of a pause without a look at the interrupt flag. -/
  sleepSliceMs : Nat := 50
  logCapacity : Nat := 1000
  deriving DecidableEq, Inhabited

namespace Config

/-- The bytes one element of a collection is reckoned at. -/
def elementSize : Nat := 16

def maxStringSize (c : Config) : Nat := c.memoryLimit

def maxCollectionSize (c : Config) : Nat := max 1 (c.memoryLimit / elementSize)

def usualCallLevels : Nat := 64

def callLevels (c : Config) : Nat := c.maxCallLevels.getD usualCallLevels

def debug (c : Config) : String :=
  "EngineConfig \x7b memory_limit: " ++ toString c.memoryLimit ++
    ", max_operations: " ++ toString c.maxOperations ++
    ", max_call_levels: " ++ (match c.maxCallLevels with
      | none => "None"
      | some n => "Some(" ++ toString n ++ ")") ++
    ", settle_delay_ms: " ++ toString c.settleDelayMs ++
    ", default_wait_timeout_ms: " ++ toString c.defaultWaitTimeoutMs ++
    ", sleep_slice_ms: " ++ toString c.sleepSliceMs ++
    ", log_capacity: " ++ toString c.logCapacity ++ " \x7d"

end Config

inductive Config.Field where
  | memoryLimit
  | maxOperations
  | maxCallLevels
  | settleDelayMs
  | defaultWaitTimeoutMs
  | sleepSliceMs
  | logCapacity
  deriving DecidableEq

namespace Config.Field

def all : List Field :=
  [memoryLimit, maxOperations, maxCallLevels, settleDelayMs, defaultWaitTimeoutMs, sleepSliceMs,
    logCapacity]

def name : Field → String
  | memoryLimit => "memory_limit"
  | maxOperations => "max_operations"
  | maxCallLevels => "max_call_levels"
  | settleDelayMs => "settle_delay_ms"
  | defaultWaitTimeoutMs => "default_wait_timeout_ms"
  | sleepSliceMs => "sleep_slice_ms"
  | logCapacity => "log_capacity"

def ofName? (s : String) : Option Field :=
  all.find? fun f => f.name = s

def optional : Field → Bool
  | maxCallLevels => true
  | _ => false

/-- Sets a field; only an optional one is cleared by the absence of a number. -/
def set (c : Config) (v : Option Nat) : Field → Config
  | memoryLimit => { c with memoryLimit := v.getD c.memoryLimit }
  | maxOperations => { c with maxOperations := v.getD c.maxOperations }
  | maxCallLevels => { c with maxCallLevels := v }
  | settleDelayMs => { c with settleDelayMs := v.getD c.settleDelayMs }
  | defaultWaitTimeoutMs => { c with defaultWaitTimeoutMs := v.getD c.defaultWaitTimeoutMs }
  | sleepSliceMs => { c with sleepSliceMs := v.getD c.sleepSliceMs }
  | logCapacity => { c with logCapacity := v.getD c.logCapacity }

end Config.Field

end ScreenScript
