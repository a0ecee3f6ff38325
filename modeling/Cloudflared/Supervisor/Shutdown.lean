import Cloudflared.Supervisor.Accounting

/-!
# The graceful-shutdown case of the event loop

`gracefulShutdownC` is closed once and stays closed, and a closed channel is always ready. The
event loop's case for it only sets `shuttingDown`, and it is set only once the channel is closed
(`shutdownClosed_of_shuttingDown`). So from the first time the loop takes the case on, the case is
ready at every later `select` of the loop, and taking it again leaves the whole state as it was
(`loopShutdown_noop`). Nothing bounds the case to one selection: once both tunnels of a run with
two connections are up and the channel is closed, the loop can take the case any number of times
in a row while both tunnels are live (`loopShutdown_repeats`), each time a whole iteration of the
loop that consumes nothing.

Once `shuttingDown` is set, the `tunnelError` case restarts nothing, but the `backoffTimer` case
does not look at `shuttingDown`: it still starts every index that was waiting. So over every
continuation from a shutting-down event loop, the spawns of any set of indices plus its waiting
ones stay what they were waiting at the shutdown (`shutdown_spawns_only_waiting`): the only
tunnels started after a graceful shutdown are those already queued for the timer.

## Main results

* `shutdownClosed_of_shuttingDown`, `loopShutdown_noop`, `loopShutdown_repeats`.
* `shutdown_spawns_only_waiting`.
-/

namespace Cloudflared.Supervisor

/-- In every reachable state, `shuttingDown` implies that `gracefulShutdownC` is closed. -/
theorem shutdownClosed_of_shuttingDown {cfg : Config} {s : Sys} (hs : Reachable cfg s) :
    s.shuttingDown = true → s.shutdownClosed = true := by
  induction hs with
  | init => exact fun h => nomatch h
  | step l _ h ih =>
    intro hsd
    cases l with
    | env l =>
      have hc := Sys.envStep_sameControl h
      exact hc.shutdownClosed (ih (hc.shuttingDown ▸ hsd))
    | task n l =>
      have hc := Sys.taskStep_sameControl h
      exact hc.shutdownClosed (ih (hc.shuttingDown ▸ hsd))
    | sup l =>
      have hf := Sys.supStep_supFrame h
      rw [hf.shutdownClosed]
      exact (hf.shuttingDown hsd).elim ih id

/-- At the event loop, once `shuttingDown` is set, the `gracefulShutdownC` case can be taken and
changes nothing. -/
theorem loopShutdown_noop {cfg : Config} {s : Sys} (hs : Reachable cfg s) (hpc : s.pc = .loop)
    (hsd : s.shuttingDown = true) : step cfg s (.sup .loopShutdown) = some s := by
  have hc := shutdownClosed_of_shuttingDown hs hsd
  simp only [step, Sys.supStep, hpc, hc, and_self, if_true, Option.some.injEq]
  cases s
  simp_all

/-- After `bringUpTwo`, `gracefulShutdownC` closes and the loop takes its case. -/
def shutDownTwo : List Label := bringUpTwo ++ [.env .closeShutdown, .sup .loopShutdown]

/-- The state `shutDownTwo` ends in. -/
def shutDownLoop : Sys := (run twoTunnels (Sys.init twoTunnels) shutDownTwo).getD (Sys.init twoTunnels)

theorem shutDownLoop_reachable : Reachable twoTunnels shutDownLoop :=
  reachable_of_run (show run twoTunnels (Sys.init twoTunnels) shutDownTwo = some shutDownLoop from rfl)

/-- After `shutDownTwo`, the event loop takes the `gracefulShutdownC` case `k` more times in a
row, for every `k`, and stays at its `select` in the same state, shutting down with both tunnels
live. -/
theorem loopShutdown_repeats (k : Nat) :
    run twoTunnels (Sys.init twoTunnels) (shutDownTwo ++ List.replicate k (.sup .loopShutdown)) =
        some shutDownLoop ∧
      shutDownLoop.pc = .loop ∧ shutDownLoop.shuttingDown = true ∧ shutDownLoop.tasks.length = 2 := by
  refine ⟨?_, rfl, rfl, rfl⟩
  rw [run_append,
    show run twoTunnels (Sys.init twoTunnels) shutDownTwo = some shutDownLoop from rfl,
    Option.some_bind]
  induction k with
  | zero => rfl
  | succ k ih =>
    simp only [List.replicate_succ, run, loopShutdown_noop shutDownLoop_reachable rfl rfl,
      Option.some_bind, ih]

/-! ### After a graceful shutdown -/

namespace Sys

/-- While shutting down, the `tunnelError` case only counts the tunnel off, and returns once no
tunnel is left. -/
theorem handleTunnelError_of_shuttingDown {s : Sys} (hsd : s.shuttingDown = true) (i : Nat)
    (err : Option TunnelErr) (retry : Bool) (pick : Nat) :
    s.handleTunnelError i err retry pick =
      if s.tunnelsActive - 1 = 0 then { s with tunnelsActive := s.tunnelsActive - 1, pc := .exit .allDone }
      else { s with tunnelsActive := s.tunnelsActive - 1 } := by
  unfold handleTunnelError
  dsimp only
  rw [hsd]
  cases err <;> rfl

theorem spawnedCount_map_spawned (p : Nat → Bool) (is : List Nat) :
    spawnedCount p (is.map Event.spawned) = is.countP p := by
  simp [spawnedCount, List.countP_map, Function.comp_def, Event.isSpawnIn]

/-- A step from a shutting-down event loop stays past `initialize` and shutting down, and every
spawn it makes takes an index out of `tunnelsWaiting`. -/
theorem shutdownStep {cfg : Config} {s s' : Sys} {l : Label} (hpc : s.pc.pastInit)
    (hsd : s.shuttingDown = true) (h : step cfg s l = some s') :
    s'.pc.pastInit ∧ s'.shuttingDown = true ∧ ∀ p, spawnedCount p s'.log +
      s'.tunnelsWaiting.countP p = spawnedCount p s.log + s.tunnelsWaiting.countP p := by
  have hctl : ∀ {s'}, SameControl s s' → s'.pc.pastInit ∧ s'.shuttingDown = true ∧ ∀ p,
      spawnedCount p s'.log + s'.tunnelsWaiting.countP p =
        spawnedCount p s.log + s.tunnelsWaiting.countP p := fun hc =>
    ⟨hc.pc ▸ hpc, hc.shuttingDown ▸ hsd, fun p => by rw [hc.log.spawnedCount, hc.tunnelsWaiting]⟩
  cases l with
  | env l => exact hctl (envStep_sameControl h)
  | task n l => exact hctl (taskStep_sameControl h)
  | sup l =>
    replace h : s.supStep cfg l = some s' := h
    cases l with
    | initStart | initCanceled | initShutdown | initConnected =>
      simp only [supStep, Option.ite_none_right_eq_some, Option.some.injEq] at h
      obtain ⟨hg, -⟩ := h
      simp [hg, SupPc.pastInit] at hpc
    | initDrain n =>
      obtain ⟨hg, -⟩ := supStep_initDrain h
      simp [hg, SupPc.pastInit] at hpc
    | initReceive n =>
      simp only [supStep, Option.ite_none_right_eq_some, Option.map_eq_some'] at h
      obtain ⟨hg, -⟩ := h
      simp [hg, SupPc.pastInit] at hpc
    | spawnSibling =>
      obtain ⟨i, hg, -⟩ := supStep_spawnSibling h
      simp [hg, SupPc.pastInit] at hpc
    | startLoop =>
      obtain ⟨i, hg, -⟩ := supStep_startLoop h
      simp [hg, SupPc.pastInit] at hpc
    | loopCanceled | drainDone | loopShutdown =>
      simp only [supStep, Option.ite_none_right_eq_some, Option.some.injEq] at h
      obtain ⟨-, rfl⟩ := h
      exact ⟨by first | rfl | exact hpc, by first | rfl | exact hsd, fun _ => rfl⟩
    | drainReceive n =>
      simp only [supStep, Option.ite_none_right_eq_some, Option.map_eq_some'] at h
      obtain ⟨-, r, hr, rfl⟩ := h
      obtain ⟨t, -, -, -, h1⟩ := receive_eq_some hr
      rw [h1]
      exact ⟨hpc, hsd, fun p => by simp⟩
    | loopReceive n pick =>
      simp only [supStep, Option.ite_none_right_eq_some, Option.map_eq_some'] at h
      obtain ⟨-, r, hr, rfl⟩ := h
      obtain ⟨t, -, -, -, h1⟩ := receive_eq_some hr
      rw [handleTunnelError_of_shuttingDown (by rw [h1]; exact hsd), h1]
      split <;> exact ⟨by first | rfl | exact hpc, hsd, fun p => by simp⟩
    | loopTimer =>
      simp only [supStep, Option.ite_none_right_eq_some, Option.some.injEq] at h
      obtain ⟨-, rfl⟩ := h
      obtain ⟨ts, c, ni, nc, ns, -, -, h⟩ := respawnWaiting_eq
        ({ s with backoffTimer := false }.logEvent (.timerFired s.tunnelsWaiting)) s.tunnelsWaiting
      simp only [fireBackoffTimer, h]
      refine ⟨hpc, hsd, fun p => ?_⟩
      have h₀ : spawnedCount p [Event.timerFired s.tunnelsWaiting] = 0 := rfl
      show spawnedCount p (s.log ++ [_] ++ s.tunnelsWaiting.map Event.spawned) + 0 = _
      rw [spawnedCount_append, spawnedCount_append, spawnedCount_map_spawned, h₀]
      rfl
    | loopConnected pick =>
      obtain ⟨-, -, rfl⟩ := supStep_loopConnected h
      exact ⟨hpc, hsd, fun _ => rfl⟩

theorem shutdownRun {cfg : Config} :
    ∀ {ls : List Label} {s s' : Sys}, s.pc.pastInit → s.shuttingDown = true →
      run cfg s ls = some s' → ∀ p, spawnedCount p s'.log + s'.tunnelsWaiting.countP p =
        spawnedCount p s.log + s.tunnelsWaiting.countP p
  | [], _, _, _, _, h, _ => by cases h; rfl
  | l :: _, _, _, hpc, hsd, h, p => by
    simp only [run, Option.bind_eq_some] at h
    obtain ⟨s₁, h₁, h₂⟩ := h
    obtain ⟨hpc₁, hsd₁, hc₁⟩ := shutdownStep hpc hsd h₁
    rw [shutdownRun hpc₁ hsd₁ h₂ p, hc₁ p]

end Sys

/-- Once the event loop has taken the `gracefulShutdownC` case, `Run` starts no tunnel but the
ones waiting for the backoff timer: over every continuation, for every set of indices, the
spawns of its indices since then and its indices still waiting are the ones that were waiting. -/
theorem shutdown_spawns_only_waiting {cfg : Config} {s s' : Sys} {ls : List Label}
    (hpc : s.pc = .loop) (hsd : s.shuttingDown = true) (h : run cfg s ls = some s')
    (p : Nat → Bool) :
    spawnedCount p s'.log + s'.tunnelsWaiting.countP p =
      spawnedCount p s.log + s.tunnelsWaiting.countP p :=
  Sys.shutdownRun (by rw [hpc]; rfl) hsd h p

/-- After `queueSecond`, `gracefulShutdownC` closes and the loop takes its case, with index `1`
waiting for the backoff timer. -/
def shutDownQueued : Sys :=
  (run twoTunnels (Sys.init twoTunnels) (queueSecond ++ [.env .closeShutdown, .sup .loopShutdown])).getD
    (Sys.init twoTunnels)

/-- The backoff timer then fires and the loop starts index `1` again. -/
theorem shutdown_spawns_only_waiting_shutDownQueued :
    shutDownQueued.pc = .loop ∧ shutDownQueued.shuttingDown = true ∧
      run twoTunnels shutDownQueued [.sup .loopTimer] = some shutDownQueued.fireBackoffTimer ∧
      spawnedCount (· == 1) shutDownQueued.fireBackoffTimer.log +
          shutDownQueued.fireBackoffTimer.tunnelsWaiting.countP (· == 1) =
        spawnedCount (· == 1) shutDownQueued.log + shutDownQueued.tunnelsWaiting.countP (· == 1) :=
  ⟨rfl, rfl, rfl, shutdown_spawns_only_waiting rfl rfl
    (show run twoTunnels shutDownQueued [.sup .loopTimer] = some shutDownQueued.fireBackoffTimer
      from rfl) _⟩

end Cloudflared.Supervisor
