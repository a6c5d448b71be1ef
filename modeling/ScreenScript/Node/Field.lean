/-!
Names of what a node says about itself: five texts and eleven flags.
-/

namespace ScreenScript.Node

inductive Field where
  | text
  | desc
  | id
  | className
  | packageName
  deriving DecidableEq, Repr

inductive Flag where
  | clickable
  | longClickable
  | scrollable
  | enabled
  | checked
  | selected
  | focusable
  | focused
  | checkable
  | editable
  | visibleToUser
  deriving DecidableEq, Repr

namespace Field

def all : List Field := [text, desc, id, className, packageName]

def written : List Field := [text, id, className, desc, packageName]

def name : Field → String
  | text => "text"
  | desc => "desc"
  | id => "id"
  | className => "className"
  | packageName => "packageName"

end Field

namespace Flag

def all : List Flag :=
  [clickable, longClickable, scrollable, enabled, checked, selected, focusable, focused, checkable,
    editable, visibleToUser]

def name : Flag → String
  | clickable => "clickable"
  | longClickable => "longClickable"
  | scrollable => "scrollable"
  | enabled => "enabled"
  | checked => "checked"
  | selected => "selected"
  | focusable => "focusable"
  | focused => "focused"
  | checkable => "checkable"
  | editable => "editable"
  | visibleToUser => "visibleToUser"

end Flag

end ScreenScript.Node
