import ScreenScript.Proofs.Client.Replies
import ScreenScript.Proofs.Client.Handles
import ScreenScript.Proofs.Script.Idle
import ScreenScript.Proofs.Script.Resolution
import ScreenScript.Proofs.Selector.Wire

/-!
Scripts that build a selector, condition by condition, and then send it. While it is built the host is
not called.
-/

namespace ScreenScript.Script

open Script.Action Selector

variable {α β : Type}

def Spent (c : Context) (e : Stop) : Prop :=
  c.config.maxOperations ≠ 0 ∧ ∃ p, e = .failed (.error .tooManyOperations p)

def Reaches (c : Context) (Q : α → Session → Prop) : Except Stop α × Session → Prop
  | (.ok v, s) => Q v s
  | (.error e, _) => Spent c e

/-- Without an interrupt, the action ends without asking for anything. -/
def Calm (c : Context) (s : Session) (Q : α → Session → Prop) (a : Action α) : Prop :=
  (a c s).Still (· = false) (Reaches c Q)

/-- Without an interrupt, the action makes one call, or the limit on operations is reached before. -/
def Sends (c : Context) (s : Session) (x : Call) (a : Action α) : Prop :=
  (a c s).Once (· = false) x (Reaches c fun _ _ => False)

/-- Without an interrupt, the action makes one call. -/
def Tells (c : Context) (s : Session) (x : Call) (a : Action α) : Prop :=
  (a c s).Once (· = false) x fun _ => False

/-- The action asks for nothing, and only looks at the interrupt flag. -/
def Mute (a : Action α) : Prop :=
  ∀ c s, (a c s).Still (fun _ => True) (fun _ => True)

section

variable {c : Context} {s : Session} {Q : α → Session → Prop} {R : β → Session → Prop}
  {a : Action α} {f : α → Action β} {x : Call}

theorem Calm.mono {P : α → Session → Prop} (ha : Calm c s P a) (h : ∀ v t, P v t → Q v t) :
    Calm c s Q a := by
  refine Program.Still.mono ha ?_
  rintro ⟨r, t⟩ hr
  cases r with
  | ok v => exact h v t hr
  | error e => exact hr

theorem Calm.bind (ha : Calm c s Q a) (hf : ∀ v t, Q v t → Calm c t R (f v)) :
    Calm c s R (a >>= f) := by
  unfold Calm
  rw [bind_apply]
  refine Program.Still.bind ha ?_
  rintro ⟨r, t⟩ hr
  cases r with
  | ok v => exact hf v t hr
  | error e => exact hr

theorem Mute.bind (ha : Mute a) (hf : ∀ v, Mute (f v)) : Mute (a >>= f) := by
  intro c s
  rw [bind_apply]
  refine Program.Still.bind (ha c s) ?_
  rintro ⟨r, t⟩ -
  cases r with
  | ok v => exact hf v c t
  | error e => trivial

theorem Sends.bind (ha : Sends c s x a) (hf : ∀ v, Mute (f v)) : Sends c s x (a >>= f) := by
  unfold Sends
  rw [bind_apply]
  refine Program.Once.bind ha ?_ ?_
  · rintro ⟨r, t⟩ hr
    cases r with
    | ok v => exact hr.elim
    | error e => exact hr
  · rintro ⟨r, t⟩
    cases r with
    | ok v => exact hf v c t
    | error e => trivial

theorem Tells.bind (ha : Tells c s x a) (hf : ∀ v, Mute (f v)) : Tells c s x (a >>= f) := by
  unfold Tells
  rw [bind_apply]
  refine Program.Once.bind ha (fun _ => False.elim) ?_
  rintro ⟨r, t⟩
  cases r with
  | ok v => exact hf v c t
  | error e => trivial

theorem Calm.tick (p : Position) : Calm c s (fun _ t => s.Counts t) (tick p) := by
  unfold Calm
  rw [tick_apply]
  split_ifs with hspent
  · exact ⟨hspent.1, p, rfl⟩
  · rw [heed_apply]
    rintro b rfl
    exact ⟨_, rfl⟩

theorem Mute.pure (v : α) : Mute (Pure.pure v : Action α) := fun _ _ => trivial

theorem Mute.readPlace (place : Place) : Mute (Evaluator.readPlace place) := fun _ _ => trivial

theorem Mute.checked (v : Value) (p : Position) : Mute (Evaluator.checked v p) := by
  refine .bind (fun c s => ?_) fun _ => .pure v
  rcases checkSize_cases v p c s with ⟨-, hsize⟩ | ⟨m, -, hsize⟩
  · rw [hsize]
    trivial
  · rw [hsize]
    trivial

theorem Tells.guarded (verb : String) (args : List String) (f : Option String → α) :
    Tells c s ⟨verb, args⟩ (guarded (.ask verb args fun r => .done (f r))) := by
  unfold Tells
  rw [guarded_apply]
  rintro b rfl
  refine ⟨rfl, fun r b _ => ?_⟩
  cases b <;> trivial

end

/-- What the operands of a call add, as conditions of the kind that the call is named for. -/
inductive Adds : Kind → List Value → List Condition → Prop
  | text (f : Node.Field) (m : Mode) (v : String) : Adds (.text f m) [.string v] [⟨.text f m, v⟩]
  | flag (f : Node.Flag) : Adds (.flag f) [] [⟨.flag f, "true"⟩]
  | flagOf (f : Node.Flag) (on : Bool) :
    Adds (.flag f) [.bool on] [⟨.flag f, if on then "true" else "false"⟩]
  | depth : Adds .depth [] []
  | depthOf (n : Int64) : Adds .depth [.int n] [⟨.depth, Word.text n⟩]
  | drawingOrder : Adds .drawingOrder [] []
  | drawingOrderOf (n : Int64) : Adds .drawingOrder [.int n] [⟨.drawingOrder, Word.text n⟩]

inductive Asks (config : Config) : String → List Value → Client.Terminal → Prop
  | findOne : Asks config "findOne" [] .findOne
  | findFirst : Asks config "findOnce" [] (.findOnce 0)
  | findOnce (n : Int64) : Asks config "findOnce" [.int n] (.findOnce n)
  | findAll : Asks config "findAll" [] .findAll
  | find : Asks config "find" [] .findAll
  | wait : Asks config "waitFor" [] (.waitFor (Api.usualWait config))
  | waitFor (n : Int64) : Asks config "waitFor" [.int n] (.waitFor n)
  | present : Asks config "exists" [] .present
  | click : Asks config "click" [] .click
  | longClick : Asks config "longClick" [] .longClick
  | setText (t : String) : Asks config "setText" [.string t] (.setText t)
  | scrollForward : Asks config "scrollForward" [] .scrollForward
  | scrollBackward : Asks config "scrollBackward" [] .scrollBackward

def Session.gather (s : Session) (h : Handle) (cs : List Condition) : Session :=
  { s with selectors := cs.foldl (·.push h ·) s.selectors }

def Session.created (s : Session) : Session :=
  { s with selectors := s.selectors.create.2 }

/-- Wherever it is evaluated in the session, the expression has this value and does nothing. `n`
steps within each other are enough for that. -/
def Stands (n : Nat) (c : Context) (s : Session) (e : Expr) (v : Value) : Prop :=
  ∀ m, n ≤ m → ∀ t, s.Counts t →
    Calm c t (fun w u => w = v ∧ s.Counts u) ((evaluator m).expr e)

/-- The statement leads from `s` to `t` without the host. -/
def Leads (n : Nat) (c : Context) (s t : Session) (x : Stmt) : Prop :=
  ∀ m, n ≤ m → ∀ s', s.Counts s' → Calm c s' (fun _ u => t.Counts u) ((evaluator m).stmt x)

/-- Links that append conditions, and end with a terminal or with none. -/
inductive Links (n : Nat) (c : Context) (s : Session) :
    List Link → List Condition → Option Client.Terminal → Prop
  | nil : Links n c s [] [] none
  | terminal {name : String} {args : List Expr} {vs : List Value} {t : Client.Terminal}
      (safe : Bool) (p : Position) (hargs : List.Forall₂ (Stands n c s) args vs)
      (ht : Asks c.config name vs t) (hname : s.function? name vs.length = none) :
      Links n c s [.method name args safe p] [] (some t)
  | condition {k : Kind} {args : List Expr} {vs : List Value} {cs ds : List Condition}
      {t : Option Client.Terminal} {links : List Link} (safe : Bool) (p : Position)
      (hargs : List.Forall₂ (Stands n c s) args vs) (hk : Adds k vs cs)
      (hname : s.function? k.name vs.length = none) (hlinks : Links n c s links ds t) :
      Links n c s (.method k.name args safe p :: links) (cs ++ ds) t

/-- Expressions that make a selector, or continue the one of a handle, and append conditions. The
handle of the selector, the conditions and the session after it follow. -/
inductive Chain (c : Context) :
    Nat → Option Handle → Session → Expr → Handle → List Condition → Session → Prop
  | start {n : Nat} {s : Session} (p : Position) (hname : s.function? "newSelector" 0 = none) :
    Chain c (n + 1) none s (.call "newSelector" [] p) s.selectors.create.1 [] s.created
  | factory {n : Nat} {s : Session} {k : Kind} {args : List Expr} {vs : List Value}
      {cs : List Condition} (p : Position) (hargs : List.Forall₂ (Stands n c s) args vs)
      (hk : Adds k vs cs) (hname : s.function? k.name vs.length = none) :
    Chain c (n + 1) none s (.call k.name args p) s.selectors.create.1 cs
      (s.created.gather s.selectors.create.1 cs)
  | named {n : Nat} {s : Session} {x : String} {v : Variable} {h : Handle} (p : Position)
      (hx : s.lookup? x = some v) (hv : v.value = .selector h)
      (hh : h < s.selectors.lists.size) : Chain c (n + 1) (some h) s (.var x p) h [] s
  | other {n : Nat} {s : Session} {e : Expr} {h : Handle} (he : Stands n c s e (.selector h))
      (hplain : ∀ x p, e ≠ .var x p) (hh : h < s.selectors.lists.size) :
    Chain c n (some h) s e h [] s
  | path {n : Nat} {o : Option Handle} {s t : Session} {base : Expr} {h : Handle}
      {cs ds : List Condition} {links : List Link} (p : Position)
      (hbase : Chain c n o s base h cs t) (hlinks : Links n c s links ds none) :
    Chain c (n + 1) o s (.path base links p) h (cs ++ ds) (t.gather h ds)

/-- Statements that build a selector and send it in the end. -/
inductive Wired (c : Context) (n : Nat) :
    Option Handle → Session → List Stmt → List Condition → Client.Terminal → Prop
  | still {o : Option Handle} {s t : Session} {x : Stmt} {xs : List Stmt} {cs : List Condition}
      {y : Client.Terminal} (hx : Leads n c s t x) (hsame : t.selectors = s.selectors)
      (hxs : Wired c n o t xs cs y) : Wired c n o s (x :: xs) cs y
  | expr {o : Option Handle} {s t : Session} {e : Expr} {h : Handle} {xs : List Stmt}
      {cs ds : List Condition} {y : Client.Terminal} (he : Chain c n o s e h cs t)
      (hxs : Wired c n (some h) t xs ds y) : Wired c n o s (.expr e :: xs) (cs ++ ds) y
  | declare {o : Option Handle} {s t : Session} {e : Expr} {h : Handle} {xs : List Stmt}
      {cs ds : List Condition} {y : Client.Terminal} (x : String) (constant : Bool) (p : Position)
      (he : Chain c n o s e h cs t)
      (hxs : Wired c n (some h) (t.declare x constant (.selector h)) xs ds y) :
    Wired c n o s (.declare x e constant p :: xs) (cs ++ ds) y
  | send {o : Option Handle} {s t : Session} {base : Expr} {links : List Link} {h : Handle}
      {cs ds : List Condition} {y : Client.Terminal} (p : Position)
      (hbase : Chain c n o s base h cs t) (hlinks : Links n c s links ds (some y)) :
    Wired c n o s [.expr (.path base links p)] (cs ++ ds) y
  | keep {o : Option Handle} {s t : Session} {base : Expr} {links : List Link} {h : Handle}
      {cs ds : List Condition} {y : Client.Terminal} (x : String) (constant : Bool)
      (p q : Position) (hbase : Chain c n o s base h cs t)
      (hlinks : Links n c s links ds (some y)) :
    Wired c n o s [.declare x (.path base links p) constant q] (cs ++ ds) y

theorem Session.Counts.gather {s t : Session} (hst : s.Counts t) (h : Handle)
    (cs : List Condition) : (s.gather h cs).Counts (t.gather h cs) := by
  obtain ⟨n, rfl⟩ := hst
  exact ⟨n, rfl⟩

theorem Session.Counts.created {s t : Session} (hst : s.Counts t) :
    s.created.Counts t.created := by
  obtain ⟨n, rfl⟩ := hst
  exact ⟨n, rfl⟩

theorem size_gather (s : Session) (h : Handle) (cs : List Condition) :
    (s.gather h cs).selectors.lists.size = s.selectors.lists.size := by
  unfold Session.gather
  dsimp only
  generalize s.selectors = store
  induction cs generalizing store with
  | nil => rfl
  | cons d ds ih =>
    rw [List.foldl_cons, ih]
    exact Array.size_modify

theorem conditions_gather (s : Session) {h : Handle} (hh : h < s.selectors.lists.size)
    (cs : List Condition) :
    (s.gather h cs).selectors.conditions h = s.selectors.conditions h ++ cs := by
  unfold Session.gather
  dsimp only
  generalize s.selectors = store at hh ⊢
  induction cs generalizing store with
  | nil => exact (List.append_nil _).symm
  | cons d ds ih =>
    have hsize : h < (store.push h d).lists.size := by
      rw [Store.push, Array.size_modify]
      exact hh
    rw [List.foldl_cons, ih _ hsize, Store.conditions_push_self _ _ hh, List.append_assoc]
    rfl

theorem condition_of_adds {k : Kind} {vs : List Value} {cs : List Condition} (hk : Adds k vs cs) :
    ∃ o : Option Condition, o.toList = cs ∧ Api.condition? k vs = some o := by
  cases hk with
  | flag | text | flagOf | depthOf | drawingOrderOf => exact ⟨some _, rfl, rfl⟩
  | depth | drawingOrder => exact ⟨none, rfl, rfl⟩

theorem conditionCall_of_adds {k : Kind} {vs : List Value} {cs : List Condition}
    (hk : Adds k vs cs) : Api.conditionCall k vs =
      (Api.condition? k vs).map fun o => (Api.newSelector >>= fun h => Api.append h o) := by
  cases hk <;> rfl

theorem function_condition {k : Kind} {vs : List Value} {cs : List Condition} (hk : Adds k vs cs)
    (h : Handle) (p : Position) : ∃ o : Option Condition, o.toList = cs ∧
      Api.function? k.name (.selector h :: vs) p = some (Api.append h o) := by
  obtain ⟨o, ho, hcondition⟩ := condition_of_adds hk
  refine ⟨o, ho, ?_⟩
  simp only [Api.function?, Kind.ofName_name, Option.bind_some, Api.conditionCall, hcondition,
    Option.map_some]
  rfl

theorem function_factory {k : Kind} {vs : List Value} {cs : List Condition} (hk : Adds k vs cs)
    (p : Position) : ∃ o : Option Condition, o.toList = cs ∧
      Api.function? k.name vs p = some (Api.newSelector >>= fun h => Api.append h o) := by
  obtain ⟨o, ho, hcondition⟩ := condition_of_adds hk
  refine ⟨o, ho, ?_⟩
  simp only [Api.function?, Kind.ofName_name, Option.bind_some, conditionCall_of_adds hk,
    hcondition, Option.map_some]
  rfl

theorem append_apply (h : Handle) (o : Option Condition) (c : Context) (s : Session) :
    Api.append h o c s = .done (.ok (.selector h), s.gather h o.toList) := by
  cases o <;> rfl

theorem Tells.send {c : Context} {s : Session} {verb : String} {extra : List String}
    {f : Option String → α} {g : α → Value} {reply : Program α → Action Value}
    {terminal : List Condition → Program α} (h : Handle)
    (hreply : ∀ q, reply q = (Action.guarded q >>= fun v => Pure.pure (g v)))
    (hterminal : ∀ cs, terminal cs =
      .ask verb (Condition.jsonAll cs :: extra) fun r => .done (f r)) :
    Tells c s ⟨verb, Condition.jsonAll (s.selectors.conditions h) :: extra⟩
      (Api.send h reply terminal) := by
  have hsend : Api.send h reply terminal c s = reply (terminal (s.selectors.conditions h)) c s :=
    rfl
  unfold Tells
  rw [hsend, hreply, hterminal]
  exact (Tells.guarded verb _ f).bind fun _ => .pure _

namespace Evaluator

def nativeCall (name : String) (receiver : Place) (args : List Value) (p : Position) :
    Action Value := do
  let v ← readPlace receiver
  match Api.changed? v name args with
  | some new =>
    if receiver.isConstant (← get) then fail (.constantChanged name) p
    writePlace receiver new
    checkSize new p
    pure .unit
  | none =>
    match Api.function? name (v :: args) p with
    | some a => checked (← a) p
    | none => fail (.functionNotFound name ((v :: args).map Value.argumentType)) p

theorem callNative_eq (name : String) (receiver : Place) (args : List Value) (p : Position) :
    callNative name receiver args p = (tick p >>= fun _ => nativeCall name receiver args p) :=
  rfl

theorem readPlace_bind_apply {α : Type} (place : Place) (k : Value → Action α) (c : Context)
    (s : Session) : (readPlace place >>= k) c s = k (place.read s) c s :=
  rfl

theorem nativeCall_apply {name : String} {receiver : Place} {args : List Value} {p : Position}
    {s : Session} {v : Value} {a : Action Value} (hread : receiver.read s = v)
    (hchanged : Api.changed? v name args = none)
    (ha : Api.function? name (v :: args) p = some a) (c : Context) :
    nativeCall name receiver args p c s = (a >>= fun w => checked w p) c s := by
  unfold nativeCall
  rw [readPlace_bind_apply, hread]
  simp only [hchanged, ha]

def Holds (place : Place) (h : Handle) (s : Session) : Prop :=
  ∀ t, s.Counts t → place.read t = .selector h

variable {c : Context} {s t : Session} {h : Handle} {n m : Nat}

theorem Holds.value (h : Handle) (s : Session) : Holds (.value (.selector h)) h s :=
  fun _ _ => rfl

theorem made_apply (o : Option Condition) (c : Context) (s : Session) :
    (Api.newSelector >>= fun h => Api.append h o) c s =
      .done (.ok (.selector s.selectors.create.1),
        s.created.gather s.selectors.create.1 o.toList) := by
  rw [bind_apply]
  exact append_apply s.selectors.create.1 o c s.created

variable {o : Option Handle} {s' : Session} {base : Expr} {cs ds : List Condition}
  {links : List Link}

theorem conditions_created (s : Session) :
    s.created.selectors.conditions s.selectors.create.1 = [] := by
  simp [Session.created, Store.create, Store.conditions]

theorem Wired.ne_nil {xs : List Stmt} {y : Client.Terminal} (hxs : Wired c n o s xs cs y) :
    xs ≠ [] := by
  cases hxs <;> exact List.cons_ne_nil _ _

end Evaluator

end ScreenScript.Script
