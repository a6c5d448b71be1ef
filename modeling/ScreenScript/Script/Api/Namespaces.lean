import ScreenScript.Script.Api.Basic

/-!
The objects scripts find under a fixed name, and the stores one of them hands out.
-/

namespace ScreenScript.Script.Api

open Script.Action

def appMethod? (name : String) (args : List Value) : Option (Action Value) :=
  match name, args with
  | "launch", [.string s] => some (ask Verb.appLaunch [s])
  | "launchApp", [.string s] => some (ask Verb.appLaunchApp [s])
  | "openUrl", [.string s] => some (ask Verb.openUrl [s])
  | "currentPackage", [] => some (text (Program.callText Verb.appCurrentPackage []))
  | _, _ => none

def deviceProperty? (name : String) : Option (Action Value) :=
  match name with
  | "width" => some (integer (Program.callInteger Verb.deviceWidth [] 0))
  | "height" => some (integer (Program.callInteger Verb.deviceHeight [] 0))
  | _ => none

def deviceMethod? (name : String) (args : List Value) : Option (Action Value) :=
  match name, args with
  | "getBattery", [] => some (integer (Program.callInteger Verb.deviceBattery [] (-1)))
  | "wakeUp", [] => some (ask Verb.deviceWakeUp [])
  | _, _ => none

def readFile (path : String) : Action Value := do
  match ← guarded (Program.call Verb.filesRead [path]) with
  | some s => pure (.string s)
  | none => pure .unit

def filesMethod? (name : String) (args : List Value) : Option (Action Value) :=
  match name, args with
  | "read", [.string path] => some (readFile path)
  | "write", [.string path, .string s] => some (ask Verb.filesWrite [path, s])
  | _, _ => none

def httpMethod? (name : String) (args : List Value) : Option (Action Value) :=
  match name, args with
  | "get", [.string url] => some (json Verb.httpGet [url])
  | "postForm", [.string url, .map form] => some (json Verb.httpPostForm [url, (Value.map form).encoded])
  | _, _ => none

def storagesMethod? (name : String) (args : List Value) : Option (Action Value) :=
  match name, args with
  | "create", [.string s] => some (pure (.storage s))
  | _, _ => none

/-- What a stored text stands for: its JSON value, or the text itself; `null` and the empty text are
nothing. -/
def storedValue? (raw : String) : Option Value :=
  match Answer.json? raw with
  | some .null => none
  | some j => some (.ofJson j)
  | none => if raw = "" then none else some (.string raw)

def storedOr (store key : String) (default : Value) : Action Value := do
  let raw ← guarded (Program.call Verb.storageGet [store, key])
  pure ((raw.bind storedValue?).getD default)

def storageMethod? (store name : String) (args : List Value) : Option (Action Value) :=
  match name, args with
  | "get", [.string key] => some (storedOr store key .unit)
  | "get", [.string key, default] => some (storedOr store key default)
  | "put", [.string key, v] => some (ask Verb.storagePut [store, key, v.encoded])
  | "remove", [.string key] => some (ask Verb.storageRemove [store, key])
  | "contains", [.string key] => some (ask Verb.storageContains [store, key])
  | "clear", [] => some (ask Verb.storageClear [store])
  | _, _ => none

def consoleText? : List Value → Option String
  | [a] => some a.display
  | [a, b] => some (a.display ++ " " ++ b.display)
  | [a, b, c] => some (a.display ++ " " ++ b.display ++ " " ++ c.display)
  | _ => none

def write (s : Severity) (text : String) : Action Value := do
  perform (.emit ⟨s, text⟩ fun _ => .done ())
  pure .unit

/-- Every severity names a method. -/
def consoleMethod? (name : String) (args : List Value) : Option (Action Value) :=
  match Severity.all.find? (·.name = name), consoleText? args with
  | some s, some t => some (write s t)
  | _, _ => none

def namespaceMethod? (n : Namespace) (name : String) (args : List Value) : Option (Action Value) :=
  match n with
  | .app => appMethod? name args
  | .device => deviceMethod? name args
  | .files => filesMethod? name args
  | .http => httpMethod? name args
  | .storages => storagesMethod? name args
  | .console => consoleMethod? name args

end ScreenScript.Script.Api
