import Cloudflared.Supervisor.Accounting

/-!
# `tunnelsActive` and the live tasks

`Run` never looks at its tasks: it sets `tunnelsActive := HAConnections` when `initialize`
returns `nil`, decrements it on each receipt, and increments it on each respawn. This module
proves what that counter says about the tasks in every reachable state (`Sys.Active`), as long
as `HAConnections` is at least `1` after the clamp:

* at the event loop and in its `ctx.Done` drain, `tunnelsActive` is the number of live tasks,
  that is of the tasks spawned whose `tunnelError` was not received
  (`tunnelsActive_eq_unreceived`); the drain thus receives exactly from the live tasks;
* when `Run` returns, other than through `errEarlyShutdown`, no task is live;
* the drain then completes once every live task waits at its send (`drain_completes`).

Two runs break this (`run_returns_with_live_task`). When `initialize` sees `gracefulShutdownC`
first, `Run` returns `nil` with the first tunnel still live; that task then blocks forever on its
send. And when the first tunnel's `Serve` returns `nil` (its backoff `select` saw
`gracefulShutdownC`, or its session ended without error), `initialize` returns that `nil` and the
event loop starts counting `HAConnections` tasks with none live and no sibling started; the
`ctx.Done` drain then waits forever. The invariant states the second case as an exception,
marked by its event in the log (`firstTunnelNil`).

## Main definitions

* `firstTunnelNil`, `Sys.Active`, `Phase.isSend`.

## Main results

* `active_of_reachable`, `tunnelsActive_eq_unreceived`, `run_returns_with_live_task`,
  `drain_completes`.
-/

namespace Cloudflared.Supervisor

/-- `initialize`'s `select` received `tunnelError{0, nil}` from the first tunnel. -/
def firstTunnelNil : Event := .received 0 none .initSelect

namespace Sys

/-- What `HAConnections` and `tunnelsActive` say about the live tasks at each place of the
control goroutine. -/
def Active (cfg : Config) (s : Sys) : Prop :=
  match s.pc with
  | .start => s.haConnections = cfg.haConnections
  | .initWait | .initDrain => s.haConnections = cfg.clampedHA
  | .siblings i => s.haConnections = cfg.clampedHA ∧ 1 ≤ i ∧ (i : Int) ≤ cfg.clampedHA
  | .loop | .drain => s.haConnections = cfg.clampedHA ∧
      (s.tunnelsActive = s.tasks.length ∨
        (s.tasks = [] ∧ s.tunnelsWaiting = [] ∧ firstTunnelNil ∈ s.log))
  | .exit e => e ≠ .earlyShutdown → s.tasks = []

theorem active_init (cfg : Config) : (Sys.init cfg).Active cfg := rfl

theorem SameControl.tasks_length {s s' : Sys} (h : SameControl s s') :
    s'.tasks.length = s.tasks.length := by
  simpa [Sys.indices] using congrArg List.length h.indices

theorem SameControl.tasks_eq_nil {s s' : Sys} (h : SameControl s s') :
    s'.tasks = [] ↔ s.tasks = [] := by
  rw [← List.length_eq_zero, h.tasks_length, List.length_eq_zero]

theorem Active.sameControl {cfg : Config} {s s' : Sys} (hs : s.Active cfg)
    (h : SameControl s s') : s'.Active cfg := by
  unfold Active at hs ⊢
  rw [h.pc]
  split at hs <;> simp only [h.haConnections, h.tunnelsActive, h.tunnelsWaiting, h.tasks_length,
    h.tasks_eq_nil] <;> try exact hs
  · exact ⟨hs.1, hs.2.imp_right fun ⟨h₁, h₂, h₃⟩ => ⟨h₁, h₂, h.log.mem h₃⟩⟩
  · exact ⟨hs.1, hs.2.imp_right fun ⟨h₁, h₂, h₃⟩ => ⟨h₁, h₂, h.log.mem h₃⟩⟩

/-- A receive from the only live task, of index `j`, leaves no task and logs `j`'s receipt. -/
theorem receive_of_indices_singleton {s : Sys} {j n : Nat} {site : RecvSite}
    {r : Sys × Nat × Option TunnelErr} (hi : s.indices = [j]) (h : s.receive n site = some r) :
    r.1.tasks = [] ∧ r.2.1 = j := by
  have hp := receive_indices_perm h
  rw [hi, List.singleton_perm, List.cons_eq_cons] at hp
  exact ⟨by simpa [Sys.indices] using hp.2.symm, hp.1.symm⟩

theorem receive_tasks_length {s : Sys} {n : Nat} {site : RecvSite}
    {r : Sys × Nat × Option TunnelErr} (h : s.receive n site = some r) :
    r.1.tasks.length + 1 = s.tasks.length := by
  simpa [Sys.indices] using (receive_indices_perm h).length_eq.symm

theorem receive_tasks_ne_nil {s : Sys} {n : Nat} {site : RecvSite}
    {r : Sys × Nat × Option TunnelErr} (h : s.receive n site = some r) : s.tasks ≠ [] := by
  have := receive_tasks_length h
  intro h0
  simp [h0] at this

section Steps

variable {cfg : Config} (hha : 1 ≤ cfg.clampedHA) {s s' : Sys} (ha : s.Accounting)
include hha ha

theorem Active.of_supStep {l : SupLabel} (hs : s.Active cfg) (h : s.supStep cfg l = some s') :
    s'.Active cfg := by
  have hb := ha.books
  cases l with
  | initStart c =>
    simp only [supStep, Option.ite_none_right_eq_some, Option.some.injEq] at h
    obtain ⟨hpc, rfl⟩ := h
    simp only [Active, hpc] at hs
    simp [Active, Config.clampedHA, hs]
  | initCanceled =>
    simp only [supStep, Option.ite_none_right_eq_some, Option.some.injEq] at h
    obtain ⟨⟨hpc, -⟩, rfl⟩ := h
    simpa [Active, hpc] using hs
  | initDrain n =>
    obtain ⟨hpc, e, r, -, hr, rfl⟩ := supStep_initDrain h
    obtain ⟨hi, -⟩ : s.indices = [0] ∧ s.tunnelsWaiting = [] := by
      simpa [SupPc.Tracks, hpc] using ha.tracks
    exact fun _ => (receive_of_indices_singleton hi hr).1
  | initReceive n =>
    simp only [supStep, Option.ite_none_right_eq_some, Option.map_eq_some'] at h
    obtain ⟨hpc, r, hr, rfl⟩ := h
    obtain ⟨hi, -⟩ : s.indices = [0] ∧ s.tunnelsWaiting = [] := by
      simpa [SupPc.Tracks, hpc] using ha.tracks
    obtain ⟨h0, hj0⟩ := receive_of_indices_singleton hi hr
    obtain ⟨t, -, -, hj, h1⟩ := receive_eq_some hr
    simp only [Active, hpc] at hs
    split
    · exact fun _ => h0
    · rename_i he
      rw [h1] at h0 ⊢
      simp [Active, enterLoop, hs, h0, firstTunnelNil, ← hj, hj0, he]
  | initShutdown =>
    simp only [supStep, Option.ite_none_right_eq_some, Option.some.injEq] at h
    obtain ⟨-, rfl⟩ := h
    exact fun h => absurd rfl h
  | initConnected =>
    simp only [supStep, Option.ite_none_right_eq_some, Option.some.injEq] at h
    obtain ⟨⟨hpc, -⟩, rfl⟩ := h
    simp only [Active, hpc] at hs
    exact ⟨hs, le_rfl, by exact_mod_cast hha⟩
  | spawnSibling =>
    obtain ⟨i, hpc, hlt, rfl⟩ := supStep_spawnSibling h
    simp only [Active, hpc] at hs
    refine ⟨hs.1, by omega, ?_⟩
    push_cast
    omega
  | startLoop =>
    obtain ⟨i, hpc, hge, rfl⟩ := supStep_startLoop h
    simp only [Active, hpc] at hs
    obtain ⟨hi, -⟩ : s.indices = List.range i ∧ s.tunnelsWaiting = [] := by
      simpa [SupPc.Tracks, hpc] using ha.tracks
    have hlen : s.tasks.length = i := by simpa [Sys.indices] using congrArg List.length hi
    simp only [Active, enterLoop, hs.1, hlen, true_and]
    left
    omega
  | loopCanceled =>
    simp only [supStep, Option.ite_none_right_eq_some, Option.some.injEq] at h
    obtain ⟨⟨hpc, -⟩, rfl⟩ := h
    simpa [Active, hpc] using hs
  | drainReceive n =>
    simp only [supStep, Option.ite_none_right_eq_some, Option.map_eq_some'] at h
    obtain ⟨⟨hpc, -⟩, r, hr, rfl⟩ := h
    obtain ⟨t, -, -, -, h1⟩ := receive_eq_some hr
    have hlen := receive_tasks_length hr
    simp only [Active, hpc] at hs
    rcases hs.2 with h2 | ⟨h2, -⟩
    · rw [h1] at hlen ⊢
      simp only [Active, hpc, hs.1, true_and]
      left
      simp only at hlen ⊢
      omega
    · exact absurd h2 (receive_tasks_ne_nil hr)
  | drainDone =>
    simp only [supStep, Option.ite_none_right_eq_some, Option.some.injEq] at h
    obtain ⟨⟨hpc, hle⟩, rfl⟩ := h
    simp only [Active, hpc] at hs
    intro _
    show s.tasks = []
    rcases hs.2 with h2 | ⟨h2, -⟩
    · exact List.length_eq_zero.1 (by omega)
    · exact h2
  | loopReceive n pick =>
    simp only [supStep, Option.ite_none_right_eq_some, Option.map_eq_some'] at h
    obtain ⟨hpc, r, hr, rfl⟩ := h
    obtain ⟨hpc₁, hha₁, hact₁, -⟩ := receive_control hr
    have hlen := receive_tasks_length hr
    simp only [Active, hpc] at hs
    obtain ⟨hha', h2 | ⟨h2, -⟩⟩ := hs
    · rcases handleTunnelError_cases r.1 r.2.1 r.2.2 _ pick with ⟨h, -⟩ | h | h | ⟨h, h0⟩ <;>
        rw [h] <;> simp only [Active, startTunnel_pc, startTunnel_haConnections, startTunnel_tasks,
          waitForNextTunnel_pc, waitForNextTunnel_haConnections, waitForNextTunnel_tasks,
          waitForNextTunnel_tunnelsActive, hpc₁, hpc,
          hha₁, hha', hact₁, true_and, List.length_append, List.length_singleton]
      · left; omega
      · left; omega
      · left; omega
      · intro _
        exact List.length_eq_zero.1 (by omega)
    · exact absurd h2 (receive_tasks_ne_nil hr)
  | loopTimer =>
    simp only [supStep, Option.ite_none_right_eq_some, Option.some.injEq] at h
    obtain ⟨⟨hpc, harmed⟩, rfl⟩ := h
    obtain ⟨ts, c, ni, nc, ns, hts, -, h⟩ := respawnWaiting_eq
      ({ s with backoffTimer := false }.logEvent (.timerFired s.tunnelsWaiting)) s.tunnelsWaiting
    simp only [Active, hpc] at hs
    obtain ⟨hha', h2 | ⟨-, hw, -⟩⟩ := hs
    · simp only [fireBackoffTimer, h]
      have := congrArg List.length hts
      simp only [List.length_map] at this
      simp [Active, logEvent, hpc, hha', h2, this]
    · exact absurd harmed (by simpa [hw] using hb.armed)
  | loopConnected pick =>
    obtain ⟨hpc, -, rfl⟩ := supStep_loopConnected h
    simpa [Active, hpc] using hs
  | loopShutdown =>
    simp only [supStep, Option.ite_none_right_eq_some, Option.some.injEq] at h
    obtain ⟨⟨hpc, -⟩, rfl⟩ := h
    simpa [Active, hpc] using hs

theorem Active.of_step {l : Label} (hs : s.Active cfg) (h : step cfg s l = some s') :
    s'.Active cfg := by
  cases l with
  | env l => exact hs.sameControl (envStep_sameControl h)
  | sup l => exact Active.of_supStep hha ha hs h
  | task n l => exact hs.sameControl (taskStep_sameControl h)

end Steps

end Sys

theorem active_of_reachable {cfg : Config} (hha : 1 ≤ cfg.clampedHA) {s : Sys}
    (hs : Reachable cfg s) : s.Active cfg := by
  induction hs with
  | init => exact Sys.active_init cfg
  | step l hr h ih => exact Sys.Active.of_step hha (accounting_of_reachable hr) ih h

/-- With `HAConnections` at least `1` after the clamp, at the event loop and in its drain
`tunnelsActive` is the number of live tasks and the number of spawns not yet received, unless the
first tunnel's `nil` error was received in `initialize`, which leaves no task live; and `Run`
returns with a task live only through `errEarlyShutdown`. -/
theorem tunnelsActive_eq_unreceived {cfg : Config} (hha : 1 ≤ cfg.clampedHA) {s : Sys}
    (hs : Reachable cfg s) :
    (s.pc = .loop ∨ s.pc = .drain →
      (s.tunnelsActive = s.tasks.length ∧
          (spawnedCount (fun _ => true) s.log : Int) =
            receivedCount (fun _ => true) s.log + s.tunnelsActive) ∨
        (s.tasks = [] ∧ firstTunnelNil ∈ s.log)) ∧
      ∀ e, s.pc = .exit e → e ≠ .earlyShutdown → s.tasks = [] := by
  have hact := active_of_reachable hha hs
  have hcount := (accounting_of_reachable hs).books.counts fun _ => true
  simp only [List.countP_true, Sys.indices, List.length_map] at hcount
  unfold Sys.Active at hact
  refine ⟨fun hpc => ?_, fun e hpc => ?_⟩
  · have hloop : s.tunnelsActive = s.tasks.length ∨
        (s.tasks = [] ∧ s.tunnelsWaiting = [] ∧ firstTunnelNil ∈ s.log) := by
      rcases hpc with hpc | hpc <;> rw [hpc] at hact <;> exact hact.2
    rcases hloop with h | ⟨h₁, -, h₃⟩
    · exact .inl ⟨h, by rw [hcount, h]; push_cast; rfl⟩
    · exact .inr ⟨h₁, h₃⟩
  · rw [hpc] at hact
    exact hact

/-- One connection over four edge addresses. -/
def oneTunnel : Config := ⟨1, 4, false, 5⟩

/-- `gracefulShutdownC` closes while `initialize` waits on the first tunnel, and its `select`
takes that case. -/
def shutdownEarly : List Label :=
  [.sup (.initStart .quic), .env .closeShutdown, .sup .initShutdown]

/-- The first tunnel's session ends with an idle timeout; `gracefulShutdownC` closes during
`Serve`'s protocol backoff, which returns `nil`; `initialize`'s `select` takes the first tunnel's
`nil` error; later `ctx` is cancelled and the event loop starts its drain. -/
def firstReturnsNil : List Label :=
  [.sup (.initStart .quic), .task 0 (.serve none),
    .task 0 (.sessionEnd ⟨none, .prefer, some (.idleTimeout "timeout: no recent network activity"),
      none⟩ none),
    .env .closeShutdown, .task 0 .backoffShutdown, .task 0 .retryFirst,
    .sup (.initReceive 0), .env (.cancel .canceled), .sup .loopCanceled]

/-- `Run` returns with the first tunnel live; and the drain waits for one `tunnelError` while no
task is live and every spawned task's error was received. -/
theorem run_returns_with_live_task :
    (∃ s, run oneTunnel (Sys.init oneTunnel) shutdownEarly = some s ∧
      s.pc = .exit .earlyShutdown ∧ s.tasks.length = 1) ∧
    (∃ s, run oneTunnel (Sys.init oneTunnel) firstReturnsNil = some s ∧
      s.pc = .drain ∧ s.tunnelsActive = 1 ∧ s.tasks = [] ∧
      spawnedCount (fun _ => true) s.log = receivedCount (fun _ => true) s.log) :=
  ⟨⟨_, rfl, rfl, rfl⟩, ⟨_, rfl, rfl, rfl, rfl, rfl⟩⟩

/-! ### The drain completes -/

/-- The task waits at its send on `tunnelErrors`. -/
def Phase.isSend : Phase → Bool
  | .send _ => true
  | _ => false

theorem Phase.eq_send_of_isSend {ph : Phase} (h : ph.isSend) : ∃ err, ph = .send err := by
  cases ph <;> simp_all [Phase.isSend]

/-- One iteration of the drain, receiving from the first task. -/
theorem Sys.supStep_drainReceive_head {cfg : Config} {s : Sys} {t : Task} {ts : List Task}
    {err : Option TunnelErr} (hpc : s.pc = .drain) (hact : 0 < s.tunnelsActive)
    (ht : s.tasks = t :: ts) (hsend : t.phase = .send err) :
    s.supStep cfg (.drainReceive 0) =
      some { s with tasks := ts, log := s.log ++ [.received t.index err .loopCtxDone],
                    tunnelsActive := s.tunnelsActive - 1 } := by
  obtain ⟨i, f, sig, ph⟩ := t
  subst hsend
  simp [Sys.supStep, Sys.receive, hpc, hact, ht]

/-- `for tunnelsActive > 0 { <-s.tunnelErrors; tunnelsActive-- }; return nil` completes when
`tunnelsActive` counts the live tasks and each of them waits at its send: one receive per task,
from the first, empties the tasks and `Run` returns `nil`. -/
theorem drain_completes (cfg : Config) {s : Sys} (hpc : s.pc = .drain)
    (hsend : ∀ t ∈ s.tasks, t.phase.isSend) (hact : s.tunnelsActive = s.tasks.length) :
    ∃ s', run cfg s (List.replicate s.tasks.length (.sup (.drainReceive 0)) ++ [.sup .drainDone]) =
      some s' ∧ s'.pc = .exit .drained ∧ s'.tasks = [] := by
  obtain ⟨ts, hts⟩ : ∃ ts, s.tasks = ts := ⟨_, rfl⟩
  rw [hts] at hsend hact ⊢
  induction ts generalizing s with
  | nil =>
    exact ⟨{ s with pc := .exit .drained }, by simp [run, step, Sys.supStep, hpc, hact], rfl, hts⟩
  | cons t ts ih =>
    obtain ⟨err, hph⟩ := Phase.eq_send_of_isSend (hsend t (.head _))
    have hlen : s.tunnelsActive = ts.length + 1 := by simp [hact]
    obtain ⟨s₁, h₁, hpc₁, hts₁, hact₁⟩ : ∃ s₁, s.supStep cfg (.drainReceive 0) = some s₁ ∧
        s₁.pc = .drain ∧ s₁.tasks = ts ∧ s₁.tunnelsActive = ts.length :=
      ⟨_, Sys.supStep_drainReceive_head hpc (by omega) hts hph, hpc, rfl,
        show s.tunnelsActive - 1 = _ by omega⟩
    obtain ⟨s', hrun, hs'⟩ := ih hpc₁ hact₁ (fun t' ht' => hsend t' (.tail _ ht')) hts₁
    exact ⟨s', by simpa [run, step, h₁] using hrun, hs'⟩

end Cloudflared.Supervisor
