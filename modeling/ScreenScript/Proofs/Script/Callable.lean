import ScreenScript.Proofs.Script.Yields

/-!
Everything scripts can call is composed of a few steps that leave the variables alone.
-/

namespace ScreenScript.Script

open Script.Action

def Offers (P : Action Value → Prop) (o : Option (Action Value)) : Prop :=
  ∀ a, o = some a → P a

namespace Offers

variable {P : Action Value → Prop}

theorem none : Offers P none := fun _ h => nomatch h

theorem some {a : Action Value} (ha : P a) : Offers P (some a) := by
  intro b hb
  cases hb
  exact ha

theorem orElse {o o' : Option (Action Value)} (h : Offers P o) (h' : Offers P o') :
    Offers P (o <|> o') := by
  cases o with
  | none => exact h'
  | some a => exact h

theorem map {α : Type} {o : Option α} {f : α → Action Value} (h : ∀ v, P (f v)) :
    Offers P (o.map f) := by
  cases o with
  | none => exact none
  | some v => exact some (h v)

theorem bind {α : Type} {o : Option α} {f : α → Option (Action Value)}
    (h : ∀ v, Offers P (f v)) : Offers P (o.bind f) := by
  cases o with
  | none => exact none
  | some v => exact h v

end Offers

variable {ended : Value → Prop} {place : Position → Prop} {mapping gathering : Bool}

namespace Api

theorem yes_native {q : Program Bool} (hq : Section q) :
    Native ended place mapping gathering (yes q) :=
  .seq (.guarded hq) fun _ => .value _

theorem text_native {q : Program String} (hq : Section q) :
    Native ended place mapping gathering (text q) :=
  .seq (.guarded hq) fun _ => .value _

theorem integer_native {q : Program Int64} (hq : Section q) :
    Native ended place mapping gathering (integer q) :=
  .seq (.guarded hq) fun _ => .value _

theorem node?_native {q : Program (Option Node.Info)} (hq : Section q) :
    Native ended place mapping gathering (node? q) :=
  .seq (.guarded hq) fun _ => .value _

theorem nodes_native {q : Program (List Node.Info)} (hq : Section q) :
    Native ended place mapping gathering (nodes q) :=
  .seq (.guarded hq) fun _ => .value _

theorem ask_native (verb : String) (args : List String) :
    Native ended place mapping gathering (ask verb args) :=
  yes_native (.call verb args Answer.bool)

theorem json_native (verb : String) (args : List String) :
    Native ended place mapping gathering (json verb args) :=
  .seq (.guarded (.call verb args fun r => r.bind Answer.json?)) fun _ => .value _

theorem refuse_native (f : ArgumentFault) {p : Position} (hp : place p) :
    Native ended place mapping gathering (refuse f p) :=
  .fail hp

theorem write_native (s : Severity) (t : String) :
    Native ended place mapping gathering (write s t) :=
  .seq (.emit _) fun _ => .value _

theorem aimOr_native (g : Except ArgumentFault Gesture) {p : Position} (hp : place p) :
    Native ended place true gathering (aimOr g p) := by
  cases g with
  | ok g => exact .aim g
  | error f => exact refuse_native f hp

theorem gesture_native (duration : Int64) (points : List Value) {p : Position} (hp : place p) :
    Native ended place true gathering (gesture duration points p) := by
  rw [gesture_eq]
  exact aimOr_native _ hp

theorem gestures_native (strokes : List Value) {p : Position} (hp : place p) :
    Native ended place true gathering (gestures strokes p) := by
  rw [gestures_eq]
  exact aimOr_native _ hp

theorem atPoint_native (verb : String) (x y : Int64) (more : List String) :
    Native ended place true gathering (atPoint verb x y more) :=
  .aim (.touch verb [(x, y)] more)

theorem swipe_native (x₁ y₁ x₂ y₂ : Int64) (more : List String) :
    Native ended place true gathering (swipe x₁ y₁ x₂ y₂ more) := by
  rw [swipe_eq]
  exact .aim _

theorem gestureCall?_native (name : String) (args : List Value) {p : Position} (hp : place p) :
    Offers (Native ended place true gathering) (gestureCall? name args p) := by
  unfold gestureCall?
  split
  · split
    · exact .some (ask_native _ _)
    · exact .none
  · split
    · exact .some (atPoint_native _ _ _ _)
    · exact .some (atPoint_native _ _ _ _)
    · exact .some (.declare _ _ fun _ => hp)
    · exact .none
  · split
    · exact .some (atPoint_native _ _ _ _)
    · exact .none
  · split
    · exact .some (swipe_native _ _ _ _ _)
    · exact .none
  · split
    · exact .some (swipe_native _ _ _ _ _)
    · exact .none
  · split
    · exact .some (gestures_native _ hp)
    · exact .none
  · split
    · exact .some (gesture_native _ _ hp)
    · exact .none
  · split
    · exact .some (gesture_native _ _ hp)
    · exact .none
  · split
    · exact .some (gesture_native _ _ hp)
    · exact .none
  · exact .none

theorem sleepFor_native (slice ms : Nat) :
    Native ended place mapping gathering (sleepFor slice ms) := by
  fun_induction sleepFor slice ms with
  | case1 => exact .value _
  | case2 ms h part ih => exact .seq (.pause _) fun _ => .seq .heed fun _ => ih

theorem sleep_native (ms : Int64) : Native ended place mapping gathering (sleep ms) :=
  .seq .heed fun _ => .seq .read fun _ => .seq (sleepFor_native _ _) fun _ => .value _

theorem toast_native (v : Value) : Native ended place mapping gathering (toast v) :=
  .seq (.guarded (.call Verb.toast [v.display] fun _ => ())) fun _ => .value _

theorem shell_native (command : String) (root : Bool) :
    Native ended place mapping gathering (shell command root) := by
  apply Native.seq (.guarded (.call Verb.shell _ fun r => r.bind Answer.json?))
  intro answer
  split <;> exact .value _

theorem actionCall?_native (name : String) (args : List Value) :
    Offers (Native ended place mapping gathering) (actionCall? name args) := by
  unfold actionCall?
  split
  · split
    · exact .some .exit
    · exact .some (text_native (.call _ _ _))
    · exact .some (text_native (.call _ _ _))
    · split
      · exact .some (ask_native _ _)
      · exact .none
  · split
    · exact .some (yes_native (.call _ _ _))
    · exact .some (shell_native _ _)
    · exact .some (toast_native _)
    · exact .map fun v => ask_native _ _
  · split
    · exact .some (shell_native _ _)
    · exact .none
  · split
    · exact .some (toast_native _)
    · exact .some (sleep_native _)
    · exact .some (sleep_native _)
    · exact .none
  · exact .none

theorem appMethod?_native (name : String) (args : List Value) :
    Offers (Native ended place mapping gathering) (appMethod? name args) := by
  unfold appMethod?
  split
  · exact .some (ask_native _ _)
  · exact .some (ask_native _ _)
  · exact .some (ask_native _ _)
  · exact .some (text_native (.call _ _ _))
  · exact .none

theorem deviceProperty?_native (name : String) :
    Offers (Native ended place mapping gathering) (deviceProperty? name) := by
  unfold deviceProperty?
  split
  · exact .some (integer_native (.call _ _ _))
  · exact .some (integer_native (.call _ _ _))
  · exact .none

theorem deviceMethod?_native (name : String) (args : List Value) :
    Offers (Native ended place mapping gathering) (deviceMethod? name args) := by
  unfold deviceMethod?
  split
  · exact .some (integer_native (.call _ _ _))
  · exact .some (ask_native _ _)
  · exact .none

theorem readFile_native (path : String) : Native ended place mapping gathering (readFile path) := by
  apply Native.seq (.guarded (.call Verb.filesRead [path] id))
  intro answer
  split <;> exact .value _

theorem filesMethod?_native (name : String) (args : List Value) :
    Offers (Native ended place mapping gathering) (filesMethod? name args) := by
  unfold filesMethod?
  split
  · exact .some (readFile_native _)
  · exact .some (ask_native _ _)
  · exact .none

theorem httpMethod?_native (name : String) (args : List Value) :
    Offers (Native ended place mapping gathering) (httpMethod? name args) := by
  unfold httpMethod?
  split
  · exact .some (json_native _ _)
  · exact .some (json_native _ _)
  · exact .none

theorem storagesMethod?_native (name : String) (args : List Value) :
    Offers (Native ended place mapping gathering) (storagesMethod? name args) := by
  unfold storagesMethod?
  split
  · exact .some (.value _)
  · exact .none

theorem storedOr_native (store key : String) (default : Value) :
    Native ended place mapping gathering (storedOr store key default) :=
  .seq (.guarded (.call Verb.storageGet [store, key] id)) fun _ => .value _

theorem storageMethod?_native (store name : String) (args : List Value) :
    Offers (Native ended place mapping gathering) (storageMethod? store name args) := by
  unfold storageMethod?
  split
  · exact .some (storedOr_native _ _ _)
  · exact .some (storedOr_native _ _ _)
  · exact .some (ask_native _ _)
  · exact .some (ask_native _ _)
  · exact .some (ask_native _ _)
  · exact .some (ask_native _ _)
  · exact .none

theorem consoleMethod?_native (name : String) (args : List Value) :
    Offers (Native ended place mapping gathering) (consoleMethod? name args) := by
  unfold consoleMethod?
  split
  · exact .some (write_native _ _)
  · exact .none

theorem namespaceMethod?_native (n : Namespace) (name : String) (args : List Value) :
    Offers (Native ended place mapping gathering) (namespaceMethod? n name args) := by
  cases n with
  | app => exact appMethod?_native name args
  | device => exact deviceMethod?_native name args
  | files => exact filesMethod?_native name args
  | http => exact httpMethod?_native name args
  | storages => exact storagesMethod?_native name args
  | console => exact consoleMethod?_native name args

theorem child_section (i : Node.Info) (n : Int64) : Section (Node.child i n) := by
  unfold Node.child
  split
  · exact .silent _
  · exact .call _ _ fun r => (Answer.nodes r)[n.toInt.toNat]?

theorem nextSibling_section (i : Node.Info) : Section (Node.nextSibling i) := by
  unfold Node.nextSibling
  split
  · exact .silent _
  · split
    · exact .call _ _ _
    · exact .silent _

theorem previousSibling_section (i : Node.Info) : Section (Node.previousSibling i) := by
  unfold Node.previousSibling
  split
  · exact .silent _
  · exact .call _ _ _

theorem typeInto_native (i : Node.Info) (s : String) :
    Native ended place mapping gathering (typeInto i s) :=
  .seq .read fun _ => yes_native (.typing _ _ _)

theorem send_native {α : Type} (h : Selector.Handle) {reply : Program α → Action Value}
    {terminal : List Selector.Condition → Program α}
    (hr : ∀ cs, Native ended place mapping gathering (reply (terminal cs))) :
    Native ended place mapping gathering (send h reply terminal) :=
  .seq (.look (fun s t h => by simp only [h.selectors]) fun _ => .value _) hr

theorem nodeMethod?_native (i : Node.Info) (name : String) (args : List Value) :
    Offers (Native ended place mapping gathering) (nodeMethod? i name args) := by
  unfold nodeMethod?
  split
  · split
    · exact .some (.value _)
    · exact .some (.value _)
    · exact .some (.value _)
    · exact .some (.value _)
    · exact .some (.value _)
    · exact .some (yes_native (.call _ _ _))
    · exact .some (yes_native (.call _ _ _))
    · exact .some (yes_native (.call _ _ _))
    · exact .some (yes_native (.call _ _ _))
    · exact .some (node?_native (.call _ _ _))
    · exact .some (nodes_native (.call _ _ _))
    · exact .some (node?_native (.call _ _ fun r => (Answer.nodes r).head?))
    · exact .some (node?_native (.call _ _ fun r => (Answer.nodes r).getLast?))
    · exact .some (node?_native (nextSibling_section i))
    · exact .some (node?_native (previousSibling_section i))
    · exact .map fun _ => .value _
  · split
    · exact .some (node?_native (child_section i _))
    · exact .some (node?_native (.call _ _ _))
    · exact .none
  · split
    · exact .some (yes_native (.call _ _ _))
    · exact .none
  · split
    · exact .some (typeInto_native i _)
    · exact .none
  · split
    · exact .some (send_native _ fun cs => nodes_native (.call _ _ _))
    · exact .some (send_native _ fun cs => node?_native (.call _ _ fun r => (Answer.nodes r).head?))
    · exact .none
  · exact .none

theorem newSelector_native : Native ended place mapping true newSelector :=
  .change (fun _ => ⟨rfl, rfl⟩) nofun (fun s t h =>
    ⟨by simp only [h.selectors], h.scope, by simp only [h.selectors], h.patterns, h.scale⟩)
    fun _ _ => rfl

theorem append_native (h : Selector.Handle) (c : Option Selector.Condition) :
    Native ended place mapping true (append h c) := by
  cases c with
  | none => exact .value _
  | some c =>
    refine .seq (.alter (fun _ => ⟨rfl, rfl⟩) nofun (fun s t h => ?_) fun _ _ => rfl) fun _ =>
      .value _
    exact ⟨h.scope, by simp only [h.selectors], h.patterns, h.scale⟩

theorem conditionCall_native (k : Selector.Kind) (args : List Value) :
    Offers (Native ended place mapping true) (conditionCall k args) := by
  unfold conditionCall
  split
  · exact .map fun c => append_native _ _
  · exact .map fun c => .seq newSelector_native fun _ => append_native _ _

theorem conditions_native (h : Selector.Handle) :
    Native ended place mapping gathering (conditions h) :=
  .look (fun s t h => by simp only [h.selectors]) fun _ => .value _

theorem satisfies_native (h : Selector.Handle) (i : Node.Info) :
    Native ended place mapping gathering (satisfies h i) :=
  .seq (conditions_native h) fun _ => .change (fun _ => ⟨rfl, rfl⟩) (fun _ _ => rfl)
    (fun s t h =>
      ⟨by simp only [h.patterns], h.scope, h.selectors, by simp only [h.patterns], h.scale⟩)
    fun _ _ => rfl

theorem satisfying_native (h : Selector.Handle) (vs : List Value) :
    Native ended place mapping gathering (satisfying h vs) := by
  fun_induction satisfying h vs with
  | case1 => exact .value _
  | case2 i vs ih =>
    apply Native.seq (satisfies_native h i)
    intro b
    split
    · exact .seq ih fun _ => .value _
    · exact ih
  | case3 v vs hv ih => exact ih

theorem firstSatisfying_native (h : Selector.Handle) (vs : List Value) :
    Native ended place mapping gathering (firstSatisfying h vs) := by
  fun_induction firstSatisfying h vs with
  | case1 => exact .value _
  | case2 i vs ih =>
    apply Native.seq (satisfies_native h i)
    intro b
    split
    · exact .value _
    · exact ih
  | case3 v vs hv ih => exact ih

theorem searchMethod?_native (vs : List Value) (name : String) (args : List Value) :
    Offers (Native ended place mapping gathering) (searchMethod? vs name args) := by
  unfold searchMethod?
  split
  · split
    · exact .some (.seq (satisfying_native _ _) fun _ => .value _)
    · exact .some (firstSatisfying_native _ _)
    · exact .none
  · exact .none

theorem selectorMethod?_native (h : Selector.Handle) (name : String) (args : List Value) :
    Offers (Native ended place mapping gathering) (selectorMethod? h name args) := by
  unfold selectorMethod?
  split
  · split
    · exact .some (.look (fun s t h => by simp only [h.selectors]) fun _ => .value _)
    · exact .some (.look (fun s t h => by simp only [h.selectors]) fun _ => .value _)
    · exact .some (.look (fun s t h => by simp only [h.selectors]) fun _ => .value _)
    · exact .some (.seq (conditions_native h) fun _ => .value _)
    · exact .some (send_native _ fun cs => node?_native (.call _ _ _))
    · exact .some (send_native _ fun cs => node?_native (.call _ _ _))
    · exact .some (send_native _ fun cs => nodes_native (.call _ _ _))
    · exact .some (send_native _ fun cs => nodes_native (.call _ _ _))
    · exact .some (.seq .read fun _ => send_native _ fun cs => node?_native (.call _ _ _))
    · exact .some (send_native _ fun cs => yes_native (.call _ _ _))
    · exact .some (send_native _ fun cs => yes_native (.call _ _ _))
    · exact .some (send_native _ fun cs => yes_native (.call _ _ _))
    · exact .some (send_native _ fun cs => yes_native (.call _ _ _))
    · exact .some (send_native _ fun cs => yes_native (.call _ _ _))
    · exact .none
  · split
    · exact .some (send_native _ fun cs => node?_native (.call _ _ _))
    · exact .some (send_native _ fun cs => node?_native (.call _ _ _))
    · exact .none
  · split
    · exact .some (send_native _ fun cs => yes_native (.call _ _ _))
    · exact .none
  · split
    · exact .some (.seq (satisfies_native h _) fun _ => .value _)
    · exact .none
  · exact .none

theorem holdsItem_native (v : Value) {p : Position} (hp : place p) (vs : List Value) :
    Native ended place mapping gathering (holdsItem v p vs) := by
  induction vs with
  | nil => exact .value _
  | cons w ws ih =>
    unfold holdsItem
    split
    · exact .value _
    · exact ih
    · exact .fail hp

theorem contains?_native (container v : Value) {p : Position} (hp : place p) :
    Offers (Native ended place mapping gathering) (contains? container v p) := by
  unfold contains?
  split
  · exact .some (.seq (holdsItem_native _ hp _) fun _ => .value _)
  · exact .some (.value _)
  · exact .some (.value _)
  · exact .some (.value _)
  · exact .some (.value _)
  · exact .none

theorem generalCall?_native (name : String) {args : List Value} (ha : ∀ v ∈ args, ended v) :
    Offers (Native ended place mapping gathering) (generalCall? name args) := by
  unfold generalCall?
  split
  · exact .some (.value _)
  · exact .some (.look (fun s t h => by simp only [h.selectors]) fun _ => .value _)
  · exact .some (.look (fun s t h => by simp only [h.selectors]) fun _ => .value _)
  · exact .some (.finish (ha _ (List.mem_singleton_self _)))
  · exact .some (write_native _ _)
  · exact .some (.look (fun s t h => by simp only [h.selectors]) fun _ => write_native _ _)
  · exact .some (write_native _ _)
  · exact .some (.look (fun s t h => by simp only [h.selectors]) fun _ => write_native _ _)
  · exact .none

theorem standardCall?_native (name : String) {args : List Value} (ha : ∀ v ∈ args, ended v)
    {p : Position} (hp : place p) :
    Offers (Native ended place mapping gathering) (standardCall? name args p) := by
  unfold standardCall?
  split
  · exact .map fun _ => .value _
  · exact contains?_native _ _ hp
  · exact .some (.value _)
  · exact generalCall?_native _ ha

theorem method?_native (name : String) (args : List Value) :
    Offers (Native ended place mapping gathering) (method? name args) := by
  unfold method?
  split
  · exact selectorMethod?_native _ _ _
  · exact nodeMethod?_native _ _ _
  · exact searchMethod?_native _ _ _
  · exact namespaceMethod?_native _ _ _
  · exact storageMethod?_native _ _ _
  · exact .none

theorem unselecting_native (name : String) {args : List Value} (ha : ∀ v ∈ args, ended v)
    {p : Position} (hp : place p) : Offers (Native ended place true gathering)
      (gestureCall? name args p <|> actionCall? name args <|> standardCall? name args p) :=
  (gestureCall?_native name args hp).orElse
    ((actionCall?_native name args).orElse (standardCall?_native name ha hp))

theorem global?_native (name : String) {args : List Value} (ha : ∀ v ∈ args, ended v)
    {p : Position} (hp : place p) :
    Offers (Native ended place true true) (global? name args p) := by
  unfold global?
  split
  · exact .some (.seq newSelector_native fun _ => .value _)
  · exact unselecting_native _ ha hp

theorem function?_native (name : String) {args : List Value} (ha : ∀ v ∈ args, ended v)
    {p : Position} (hp : place p) : Offers (Native ended place true true) (function? name args p) :=
  (Offers.bind fun k => conditionCall_native k args).orElse
    ((method?_native name args).orElse (global?_native name ha hp))

theorem property?_native (v : Value) (name : String) :
    Offers (Native ended place mapping gathering) (property? v name) := by
  unfold property?
  split
  · exact .map fun _ => .value _
  · exact deviceProperty?_native _
  · exact .some (.value _)
  · exact .some (.value _)
  · exact .some (.value _)
  · exact .none

end Api

end ScreenScript.Script
