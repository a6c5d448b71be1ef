import ScreenScript.Script.Api.Basic
import ScreenScript.Selector.Terminal

/-!
Functions of no object: global actions, applications, the clipboard, toasts, the shell, pauses and
the end of a script.
-/

namespace ScreenScript.Script.Api

open Script.Action

/-- Waits in slices and looks at the interrupt flag after each. -/
def sleepFor (slice : Nat) (ms : Nat) : Action Unit := do
  if _h : ms = 0 then pure ()
  else
    let part := min (max 1 slice) ms
    perform (.pause part .done)
    heed
    sleepFor slice (ms - part)
termination_by ms

def sleep (ms : Int64) : Action Value := do
  heed
  sleepFor (← read).config.sleepSliceMs ms.toInt.toNat
  pure .unit

def exit : Action Value := failWith (.terminated Failure.exitToken)

def toast (v : Value) : Action Value := do
  guarded do
    let _ ← Program.call Verb.toast [v.display]
  pure .unit

/-- The outcome of a shell command before the host's answer is put over it. -/
def silentShell : List (String × Value) :=
  [("code", .int (-1)), ("error", .string ""), ("result", .string "")]

def shell (command : String) (root : Bool) : Action Value := do
  let answer ← guarded (Program.callJson Verb.shell [command, Selector.Store.flagValue root])
  match answer with
  | some (.object ms) =>
    pure (.map (ms.foldl (fun acc m => Json.putMember m.1 (.ofJson m.2) acc) silentShell))
  | _ => pure (.map silentShell)

def asksRoot (options : List (String × Value)) : Bool :=
  match Json.getMember "root" options with
  | some (.bool b) => b
  | _ => false

/-- Verbs that are called like a function of the same name without arguments. -/
def plainVerbs : List String :=
  [Verb.back, Verb.home, Verb.recents, Verb.notifications, Verb.quickSettings]

def textVerbs : List (String × String) :=
  [("launch", Verb.appLaunch), ("launchApp", Verb.appLaunchApp), ("openUrl", Verb.openUrl),
    ("setText", Verb.setText), ("setClip", Verb.setClip)]

def actionCall? (name : String) (args : List Value) : Option (Action Value) :=
  match args with
  | [] =>
    match name with
    | "exit" => some exit
    | "getClip" => some (text (Program.callText Verb.getClip []))
    | "currentPackage" => some (text (Program.callText Verb.currentPackage []))
    | _ => if plainVerbs.contains name then some (ask name []) else none
  | [.string s] =>
    match name with
    | "click" => some (yes (Selector.click [⟨.text .text .exact, s⟩]))
    | "shell" => some (shell s false)
    | "toast" => some (toast (.string s))
    | _ => (textVerbs.find? (·.1 = name)).map fun v => ask v.2 [s]
  | [.string s, .map options] => if name = "shell" then some (shell s (asksRoot options)) else none
  | [v] =>
    match name, v with
    | "toast", v => some (toast v)
    | "sleep", .int n => some (sleep n)
    | "sleep", .float x => some (sleep x.toWord)
    | _, _ => none
  | _ => none

end ScreenScript.Script.Api
