import ScreenScript.Proofs.Host.Bisimulation

/-!
Notes are written and never read: worlds that differ in nothing else cannot be told apart.
-/

namespace ScreenScript.World

variable {σ : Type}

def Alike (w v : World σ) : Prop :=
  ∃ notes, v = { w with notes }

namespace Alike

theorem symm {w v : World σ} (h : w.Alike v) : v.Alike w := by
  obtain ⟨n, rfl⟩ := h
  exact ⟨w.notes, rfl⟩

theorem trans {w v u : World σ} (hwv : w.Alike v) (hvu : v.Alike u) : w.Alike u := by
  obtain ⟨n, rfl⟩ := hwv
  obtain ⟨m, rfl⟩ := hvu
  exact ⟨m, rfl⟩

theorem pending_eq {w v : World σ} (h : w.Alike v) : v.pending = w.pending := by
  obtain ⟨n, rfl⟩ := h
  rfl

theorem state_eq {w v : World σ} (h : w.Alike v) : v.state = w.state := by
  obtain ⟨n, rfl⟩ := h
  rfl

theorem deadline_eq {w v : World σ} (h : w.Alike v) : v.deadline = w.deadline := by
  obtain ⟨n, rfl⟩ := h
  rfl

theorem attached_eq {w v : World σ} (h : w.Alike v) : v.attached = w.attached := by
  obtain ⟨n, rfl⟩ := h
  rfl

theorem calls_eq {w v : World σ} (h : w.Alike v) : v.calls = w.calls := by
  obtain ⟨n, rfl⟩ := h
  rfl

theorem console_eq {w v : World σ} (h : w.Alike v) : v.console = w.console := by
  obtain ⟨n, rfl⟩ := h
  rfl

theorem note {w v : World σ} (h : w.Alike v) (e e' : Log.Event) :
    (w.note e).Alike (v.note e') := by
  obtain ⟨n, rfl⟩ := h
  exact ⟨e' :: n, rfl⟩

theorem wait {w v : World σ} (h : w.Alike v) (ms : Nat) : (w.wait ms).Alike (v.wait ms) := by
  obtain ⟨n, rfl⟩ := h
  simp only [World.wait]
  cases w.deadline with
  | none => exact ⟨n, rfl⟩
  | some d =>
    dsimp only
    split
    · exact ⟨_, rfl⟩
    · exact ⟨n, rfl⟩

theorem shared : Shared (Alike (σ := σ)) where
  pending := pending_eq
  attached := attached_eq
  state := state_eq
  wait := wait
  note := note
  request h b := by
    obtain ⟨n, rfl⟩ := h
    exact ⟨n, rfl⟩
  release h := by
    obtain ⟨n, rfl⟩ := h
    exact ⟨n, rfl⟩
  put h s := by
    obtain ⟨n, rfl⟩ := h
    exact ⟨n, rfl⟩
  emit h m := by
    obtain ⟨n, rfl⟩ := h
    exact ⟨_, rfl⟩
  announce h verb args := by
    obtain ⟨n, rfl⟩ := h
    exact ⟨_, rfl⟩

end Alike

end ScreenScript.World
