import ScreenScript.Node.Info
import ScreenScript.Selector.Store

/-!
The values of scripts, their types, and the three ways they are shown: displayed, inspected, and
under the names of their types.
-/

namespace ScreenScript.Script

open Node Selector

inductive Namespace where
  | app
  | device
  | files
  | http
  | storages
  | console
  deriving DecidableEq

/-- Maps are in ascending order of their keys. A selector is a handle; a store is its name. -/
inductive Value where
  | unit
  | bool (b : Bool)
  | int (n : Int64)
  | float (x : Binary64)
  | char (c : Char)
  | string (s : String)
  | array (items : List Value)
  | map (entries : List (String × Value))
  /-- The whole numbers from `lo` up to `hi`, with or without `hi` itself. -/
  | range (lo hi : Int64) (closed : Bool)
  | selector (h : Handle)
  | node (i : Info)
  | namespaceObject (n : Namespace)
  | storage (name : String)
  deriving Inhabited

namespace Namespace

def all : List Namespace := [app, device, files, http, storages, console]

def name : Namespace → String
  | app => "app"
  | device => "device"
  | files => "files"
  | http => "http"
  | storages => "storages"
  | console => "console"

def typeName : Namespace → String
  | app => "App"
  | device => "Device"
  | files => "Files"
  | http => "Http"
  | storages => "Storages"
  | console => "Console"

end Namespace

namespace Value

/-- The type as `type_of` and most messages name it. -/
def typeName : Value → String
  | unit => "()"
  | bool _ => "bool"
  | int _ => "i64"
  | float _ => "f64"
  | char _ => "char"
  | string _ => "string"
  | array _ => "array"
  | map _ => "map"
  | range _ _ false => "range"
  | range _ _ true => "range="
  | selector _ => "Selector"
  | node _ => "UiNode"
  | namespaceObject n => n.typeName
  | storage _ => "Storage"

def argumentType : Value → String
  | string _ => "&str | ImmutableString | String"
  | v => v.typeName

/-- How an object is displayed where its own text is not asked for. -/
def pathName : Value → String
  | selector _ => "automate_engine::selector::Selector"
  | node _ => "automate_engine::node::UiNode"
  | namespaceObject n => "automate_engine::api::namespaces::" ++ n.typeName ++ "Api"
  | storage _ => "automate_engine::api::namespaces::Storage"
  | _ => ""

def rangeText (lo hi : Int64) (closed : Bool) : String :=
  Word.text lo ++ (if closed then "..=" else "..") ++ Word.text hi

mutual

/-- The inspected form: texts are quoted and numbers with an exponent sooner. -/
def inspectWith (m : Value → String) : Value → String
  | unit => "()"
  | bool true => "true"
  | bool false => "false"
  | int n => Word.text n
  | float x => Layout.inspected.text x
  | char c => Text.quotedChar c
  | string s => Text.quoted s
  | array vs => "[" ++ ", ".intercalate (inspectItems m vs) ++ "]"
  | map es => "#\x7b" ++ ", ".intercalate (inspectEntries m es) ++ "\x7d"
  | range lo hi closed => rangeText lo hi closed
  | v => m v

def inspectItems (m : Value → String) : List Value → List String
  | [] => []
  | v :: vs => inspectWith m v :: inspectItems m vs

def inspectEntries (m : Value → String) : List (String × Value) → List String
  | [] => []
  | (k, v) :: es => (Text.quoted k ++ ": " ++ inspectWith m v) :: inspectEntries m es

end

/-- The displayed form, with everything inside arrays and maps inspected. -/
def display : Value → String
  | unit => ""
  | bool true => "true"
  | bool false => "false"
  | int n => Word.text n
  | float x => Layout.display x
  | char c => String.singleton c
  | string s => s
  | v => inspectWith pathName v

/-- How an object shows itself when its own text for inspection is asked for. -/
def ownInspection (s : Store) : Value → String
  | selector h => "Selector(" ++ s.text h ++ ")"
  | node i => i.debug
  | v => v.typeName

/-- The form `debug` writes. -/
def inspect (s : Store) (v : Value) : String :=
  inspectWith (ownInspection s) v

/-- The form `print` writes, and concatenation with a text. -/
def ownText (s : Store) : Value → String
  | selector h => s.text h
  | node i => i.display
  | array vs => inspectWith (ownInspection s) (array vs)
  | map es => inspectWith (ownInspection s) (map es)
  | namespaceObject n => n.typeName
  | storage name => (storage name).typeName
  | v => v.display

def completion (s : Store) : Value → String
  | unit => "undefined"
  | node i => i.display
  | selector h => s.text h
  | v => v.display

end Value

end ScreenScript.Script
