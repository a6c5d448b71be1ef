import ScreenScript.Node.Operation

/-!
What a list of conditions can be sent to the host for. The first argument is always the list.
-/

namespace ScreenScript.Selector

open Program Node

def args (cs : List Condition) (extra : List String) : List String :=
  Condition.jsonAll cs :: extra

def findOne (cs : List Condition) : Program (Option Info) :=
  askOne Verb.selectorFindOne (args cs [])

def findOnce (cs : List Condition) (index : Int64) : Program (Option Info) :=
  askOne Verb.selectorFindOnce (args cs [Word.text index])

def findAll (cs : List Condition) : Program (List Info) :=
  askMany Verb.selectorFindAll (args cs [])

def waitFor (cs : List Condition) (ms : Int64) : Program (Option Info) :=
  askOne Verb.selectorWaitFor (args cs [Word.text ms])

def present (cs : List Condition) : Program Bool :=
  callBool Verb.selectorExists (args cs [])

def click (cs : List Condition) : Program Bool :=
  callBool Verb.selectorClick (args cs [])

def longClick (cs : List Condition) : Program Bool :=
  callBool Verb.selectorLongClick (args cs [])

def setText (cs : List Condition) (text : String) : Program Bool :=
  callBool Verb.selectorSetText (args cs [text])

def scrollForward (cs : List Condition) : Program Bool :=
  callBool Verb.selectorScrollForward (args cs [])

def scrollBackward (cs : List Condition) : Program Bool :=
  callBool Verb.selectorScrollBackward (args cs [])

end ScreenScript.Selector
