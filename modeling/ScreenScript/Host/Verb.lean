/-!
The verbs a host is asked. Their names are fixed.
-/

namespace ScreenScript.Verb

def click := "click"
def longClick := "longClick"
def press := "press"
def swipe := "swipe"
def swipeUp := "swipeUp"
def swipeDown := "swipeDown"
def swipeLeft := "swipeLeft"
def swipeRight := "swipeRight"
def gesture := "gesture"
def gestures := "gestures"
def setText := "setText"

def back := "back"
def home := "home"
def recents := "recents"
def notifications := "notifications"
def quickSettings := "quickSettings"

def appLaunch := "app.launch"
def appLaunchApp := "app.launchApp"
def appCurrentPackage := "app.currentPackage"
def openUrl := "openUrl"
def currentPackage := "currentPackage"

def deviceBattery := "device.getBattery"
def deviceWakeUp := "device.wakeUp"
def deviceWidth := "device.width"
def deviceHeight := "device.height"

/-! The first argument of a selector's verb is its list of conditions. -/

def selectorFindOne := "selector.findOne"
def selectorFindOnce := "selector.findOnce"
def selectorFindAll := "selector.findAll"
def selectorWaitFor := "selector.waitFor"
def selectorExists := "selector.exists"
def selectorClick := "selector.click"
def selectorLongClick := "selector.longClick"
def selectorSetText := "selector.setText"
def selectorScrollForward := "selector.scrollForward"
def selectorScrollBackward := "selector.scrollBackward"

/-! The first argument of a node's verb is the key of its rectangle. -/

def nodeParent := "uiobject.parent"
def nodeChildren := "uiobject.children"
def nodeFind := "uiobject.find"
def nodeSibling := "uiobject.sibling"
def nodeScrollForward := "uiobject.scrollForward"
def nodeScrollBackward := "uiobject.scrollBackward"

/-! The first argument of a store's verb is its name. -/

def storageGet := "storage.get"
def storagePut := "storage.put"
def storageRemove := "storage.remove"
def storageContains := "storage.contains"
def storageClear := "storage.clear"

def shell := "shell"
def filesRead := "files.read"
def filesWrite := "files.write"
def httpGet := "http.get"
def httpPostForm := "http.postForm"

def getClip := "getClip"
def setClip := "setClip"
def toast := "toast"

end ScreenScript.Verb
