import ScreenScript.Console

/-!
What a script or a caller asks of the world, step by step: calls of the host, looks at the interrupt
flag, pauses, console messages and diagnostic notes. A program only says what it asks for and how it
goes on; the world that answers is described elsewhere.
-/

namespace ScreenScript

inductive Program (α : Type) where
  | done (a : α)
  | ask (verb : String) (args : List String) (next : Option String → Program α)
  | poll (next : Bool → Program α)
  | pause (ms : Nat) (next : Unit → Program α)
  | emit (m : Message) (next : Unit → Program α)
  | note (e : Log.Event) (next : Unit → Program α)

namespace Program

variable {α β : Type}

def bind (p : Program α) (f : α → Program β) : Program β :=
  match p with
  | done a => f a
  | ask verb args next => ask verb args fun r => (next r).bind f
  | poll next => poll fun b => (next b).bind f
  | pause ms next => pause ms fun u => (next u).bind f
  | emit m next => emit m fun u => (next u).bind f
  | note e next => note e fun u => (next u).bind f

instance : Monad Program where
  pure := done
  bind := bind

def call (verb : String) (args : List String) : Program (Option String) :=
  ask verb args done

end Program

end ScreenScript
