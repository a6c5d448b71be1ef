import ScreenScript.Log.Spec
import ScreenScript.Number.Decimal

/-!
What the words of a command line ask for. Switches of the log stand before the command, options of a
run after it, and none may be given twice.
-/

namespace ScreenScript.CommandLine

inductive Item where
  | flag (name : String)
  | setting (name value : String)
  | operand (s : String)
  /-- All words after this are operands. -/
  | separator
  | malformed
  deriving DecidableEq

namespace Item

def flags : List String := ["trace", "debug", "version", "help"]

def settings : List String := ["log-level", "log-filter", "config", "host", "timeout-ms"]

/-- Whether a word is taken as it is. A lone hyphen is. -/
def isOperand (w : String) : Bool :=
  w = "-" || !("-".isPrefixOf w)

def ofFlag (name : String) : Item :=
  if flags.contains name then flag name else malformed

def ofLetters (cs : List Char) : Item :=
  match cs with
  | 'V' :: _ => flag "version"
  | 'h' :: _ => flag "help"
  | _ => malformed

def ofPair (name value : String) : Item :=
  if settings.contains name then setting name value else malformed

def split (cs : List Char) : String × Option String :=
  let name := cs.takeWhile (· != '=')
  (String.ofList name, ((cs.drop name.length).tail?).map String.ofList)

/-- The items of a command line. A setting without a value takes the next word. -/
def ofWords : List String → List Item
  | [] => []
  | w :: ws =>
    match w.toList with
    | ['-', '-'] => separator :: ws.map operand
    | '-' :: '-' :: cs =>
      match split cs with
      | (name, some value) => ofPair name value :: ofWords ws
      | (name, none) =>
        if settings.contains name then
          match ws with
          | [] => [malformed]
          | v :: ws => if isOperand v then setting name v :: ofWords ws else [malformed]
        else ofFlag name :: ofWords ws
    | '-' :: c :: cs => ofLetters (c :: cs) :: ofWords ws
    | _ => operand w :: ofWords ws

end Item

structure Run where
  script : String
  config : Option String := none
  host : Option String := none
  timeoutMs : Option Nat := none

inductive Command where
  | run (r : Run)
  | check (script : String)

structure Invocation where
  switches : Log.Spec.Switches := {}
  command : Command

inductive Request where
  | version
  | help
  | perform (i : Invocation)

namespace Request

def once {α : Type} (old : Option α) (new : Option α) : Option (Option α) :=
  match old, new with
  | none, some a => some (some a)
  | _, _ => none

def path? (s : String) : Option String :=
  if s = "" then none else some s

def millis? (s : String) : Option Nat := do
  let n ← Decimal.readUnsigned? s.toList
  if n < UInt64.size then some n else none

structure Draft where
  script : Option String := none
  config : Option String := none
  host : Option String := none
  timeoutMs : Option Nat := none

def runItems (d : Draft) : List Item → Option (Option Run)
  | [] => d.script.map fun s => some ⟨s, d.config, d.host, d.timeoutMs⟩
  | .flag "help" :: _ => some none
  | .operand s :: is => do runItems { d with script := ← once d.script (path? s) } is
  | .separator :: is => runItems d is
  | .setting "config" s :: is => do runItems { d with config := ← once d.config (path? s) } is
  | .setting "host" s :: is => do runItems { d with host := ← once d.host (path? s) } is
  | .setting "timeout-ms" s :: is => do
    runItems { d with timeoutMs := ← once d.timeoutMs (millis? s) } is
  | _ => none

def checkItems (script : Option String) : List Item → Option (Option String)
  | [] => script.map some
  | .flag "help" :: _ => some none
  | .operand s :: is => do checkItems (← once script (path? s)) is
  | .separator :: is => checkItems script is
  | _ => none

/-- Whether the switches go together: a switch that stands for a level stands alone. -/
def compatible (s : Log.Spec.Switches) : Bool :=
  if s.trace then !s.debug && s.level.isNone && s.filter.isNone
  else if s.debug then s.level.isNone && s.filter.isNone
  else true

def ofItems (s : Log.Spec.Switches) : List Item → Option Request
  | .flag "version" :: _ => some .version
  | .flag "help" :: _ => some .help
  | .flag "trace" :: is => if s.trace then none else ofItems { s with trace := true } is
  | .flag "debug" :: is => if s.debug then none else ofItems { s with debug := true } is
  | .setting "log-level" v :: is => do ofItems { s with level := ← once s.level (some v) } is
  | .setting "log-filter" v :: is => do ofItems { s with filter := ← once s.filter (some v) } is
  | .operand "help" :: _ => some .help
  | .operand "run" :: is => do
    match ← runItems {} is with
    | some r => if compatible s then some (.perform ⟨s, .run r⟩) else none
    | none => some .help
  | .operand "check" :: is => do
    match ← checkItems none is with
    | some script => if compatible s then some (.perform ⟨s, .check script⟩) else none
    | none => some .help
  | _ => none

/-- What a command line asks for; nothing when it is misused. -/
def ofWords? (ws : List String) : Option Request :=
  ofItems {} (Item.ofWords ws)

end Request

end ScreenScript.CommandLine
