import Cloudflared.Supervisor.TunnelsActive
import Cloudflared.Supervisor.Shutdown

/-!
# How `Run` stops

Once in its event loop, `Run` stops in one of two ways. When `ctx` is cancelled, the loop takes
`ctx.Done`, and its drain waits for one `tunnelError` for each tunnel it counts. Once
`gracefulShutdownC` is closed, the loop takes that case, restarts no tunnel whose error arrives,
and returns `nil` with the error of the last tunnel it counts. This module proves that both ends
can be reached. From every reachable state of the loop or of the drain in which `ctx` is done
(`canceled_run_returns`), and from every reachable state of the loop after the shutdown case
with a tunnel live or waiting (`shutdown_run_returns`), some run of the tasks and of the control
goroutine reaches `return nil`.

Every task can get to its send. After the cancellation (`Sys.run_cancelLabels`), its session
ends with `context.Canceled` and `GetMaxBackoffDuration` refuses the wait, or its backoff
`select` takes `ctx.Done`; `startFirstTunnel` then gives up. After the shutdown
(`Sys.run_shutdownToSend`), its session ends without an error, as `serveTunnel`'s does on
graceful shutdown, and its backoff `select` takes `gracefulShutdownC`. `startFirstTunnel` then
sends the error it has, or, when that error allows a retry, calls `Serve` once more, whose quiet
session ends the same way. The one exception is the run of `run_returns_with_live_task` in which
`initialize` received the first tunnel's `nil`: there the loop counts tunnels that do not exist.

## Main definitions

* `canceledSession`, `quietSession`.
* `Task.giveUp`, `Task.cancelLabels`.

## Main results

* `Sys.run_cancelLabels`, `Sys.run_shutdownToSend`: one task gets to its send.
* `Sys.run_allToSend`: every task gets to its send, given how each one does.
* `canceled_run_returns`, `shutdown_run_returns`.
-/

namespace Cloudflared.Supervisor

/-- A session that got to run and ended with `context.Canceled`. -/
def canceledSession : Attempt := ⟨none, .prefer, some .canceled, none⟩

/-- A session that got to run and ended without an error. -/
def quietSession : Attempt := ⟨none, .prefer, none, none⟩

/-- `startFirstTunnel`'s decision after `Serve`, for the task that runs it. -/
def Task.giveUp (t : Task) : List TaskLabel := if t.first then [.retryFirst] else []

/-- The steps that take a task to its send once `ctx` is done: `Serve` ends its session with
`context.Canceled` and `GetMaxBackoffDuration` refuses the wait, or its backoff `select` takes
`ctx.Done`; `startFirstTunnel` then gives up. -/
def Task.cancelLabels (t : Task) : List TaskLabel :=
  match t.phase with
  | .call => .serve none :: .sessionEnd canceledSession none :: t.giveUp
  | .session _ _ => .sessionEnd canceledSession none :: t.giveUp
  | .backoff _ _ => .backoffCanceled :: t.giveUp
  | .returned _ => [.retryFirst]
  | .send _ => []

/-- What `Serve` returns to its caller, with `err`: `startFirstTunnel`'s loop or the send. -/
def Task.served (t : Task) (err : Option TunnelErr) : Task :=
  { t with phase := if t.first then .returned err else .send err }

/-- Setting a position of a list to what it holds leaves the list as it is. -/
theorem set_of_getElem?_eq {α : Type} {l : List α} {n : Nat} {a : α} (h : l[n]? = some a) :
    l.set n a = l :=
  List.ext_getElem? fun m => by
    by_cases hm : n = m
    · subst hm
      rw [List.getElem?_set_self (List.getElem?_eq_some_iff.1 h).1, h]
    · rw [List.getElem?_set_ne hm]

namespace Sys

variable (cfg : Config) {s : Sys} {n : Nat} {t : Task}

/-! ### One step of a task -/

theorem taskStep_serve_none (ht : s.tasks[n]? = some t) (hph : t.phase = .call) :
    ∃ s₁ p, s.taskStep cfg n (.serve none) = some s₁ ∧
      s₁.tasks = s.tasks.set n { t with phase := .session p false } := by
  simp only [taskStep, ht, hph]
  exact ⟨_, _, rfl, rfl⟩

/-- Once `ctx` is done, `GetMaxBackoffDuration` refuses the wait, so a session that ends with
`context.Canceled` makes `Serve` return it. -/
theorem taskStep_sessionEnd_canceled {p : Protocol} {fused : Bool} (hctx : s.ctxDone = true)
    (ht : s.tasks[n]? = some t) (hph : t.phase = .session p fused) :
    ∃ s₁, s.taskStep cfg n (.sessionEnd canceledSession none) = some s₁ ∧
      s₁.tasks = s.tasks.set n (t.served (some .canceled)) := by
  cases p <;>
    simp [taskStep, ht, hph, hctx, maxBackoffAllows, canceledSession, Attempt.registers,
      serveTunnel, serveConnection, classifyServeError, returnServe, setPhase, logEvent,
      Task.served]

/-- A session that ends without an error makes `Serve` wait on its backoff while `ctx` is live,
and return `nil` at once when `ctx` is done. -/
theorem taskStep_sessionEnd_quiet {p : Protocol} {fused : Bool} (ht : s.tasks[n]? = some t)
    (hph : t.phase = .session p fused) :
    ∃ s₁, s.taskStep cfg n (.sessionEnd quietSession none) = some s₁ ∧
      ((∃ fb, s₁.tasks = s.tasks.set n { t with phase := .backoff none fb }) ∨
        s₁.tasks = s.tasks.set n (t.served none)) := by
  cases hc : s.ctxDone <;> cases p <;>
    simp [taskStep, ht, hph, hc, maxBackoffAllows, quietSession, Attempt.registers, serveTunnel,
      serveConnection, IPAddrFallback.shouldGetNewAddress, fallbackAfterRotation, setPhase,
      returnServe, logEvent, Task.served]

/-- Once `ctx` is done, the backoff `select` takes `ctx.Done`, and `Serve` returns `ctx.Err()`. -/
theorem taskStep_backoffCanceled {err : Option TunnelErr} {fb : Bool} {e : CtxErr}
    (hctx : s.ctxErr = some e) (ht : s.tasks[n]? = some t) (hph : t.phase = .backoff err fb) :
    ∃ s₁, s.taskStep cfg n .backoffCanceled = some s₁ ∧
      s₁.tasks = s.tasks.set n (t.served (some e.err)) := by
  simp [taskStep, ht, hph, hctx, returnServe, setPhase, logEvent, Task.served]

theorem taskStep_backoffShutdown {err : Option TunnelErr} {fb : Bool}
    (hsc : s.shutdownClosed = true) (ht : s.tasks[n]? = some t) (hph : t.phase = .backoff err fb) :
    ∃ s₁, s.taskStep cfg n .backoffShutdown = some s₁ ∧ s₁.tasks = s.tasks.set n (t.served none) := by
  simp [taskStep, ht, hph, hsc, returnServe, setPhase, logEvent, Task.served]

/-- `startFirstTunnel` calls `Serve` again, or goes to its send with the error it has. -/
theorem taskStep_retryFirst {err : Option TunnelErr} (ht : s.tasks[n]? = some t)
    (hph : t.phase = .returned err) :
    ∃ s₁, s.taskStep cfg n .retryFirst = some s₁ ∧
      (s₁.tasks = s.tasks.set n { t with phase := .call } ∨
        s₁.tasks = s.tasks.set n { t with phase := .send err }) := by
  simp only [taskStep, ht, hph]
  split
  · exact ⟨_, rfl, .inl rfl⟩
  · exact ⟨_, rfl, .inr rfl⟩

/-- `startFirstTunnel` gives up once `ctx` is done, and after a `nil` error. -/
theorem taskStep_giveUp {err : Option TunnelErr} (hno : s.ctxDone = true ∨ err = none)
    (ht : s.tasks[n]? = some t) (hph : t.phase = .returned err) :
    ∃ s₁, s.taskStep cfg n .retryFirst = some s₁ ∧
      s₁.tasks = s.tasks.set n { t with phase := .send err } := by
  have hno : firstTunnelRetries cfg.isStaticEdge s.ctxDone err (maxBackoffAllows s.ctxDone) =
      false := by
    rcases hno with h | rfl
    · rw [h]
      cases err <;> rfl
    · rfl
  simp [taskStep, ht, hph, hno, setPhase]

/-- A run of steps of one task changes none of the control goroutine's variables. -/
theorem sameControl_of_taskRun :
    ∀ {ls : List TaskLabel} {s s' : Sys}, run cfg s (ls.map (.task n)) = some s' → SameControl s s'
  | [], s, s', h => by
    cases h
    exact ⟨rfl, rfl, rfl, rfl, rfl, rfl, rfl, .refl _, id, id⟩
  | l :: ls, s, s', h => by
    simp only [List.map_cons, run, step, Option.bind_eq_some] at h
    obtain ⟨s₁, h₁, h₂⟩ := h
    exact (taskStep_sameControl h₁).trans (sameControl_of_taskRun h₂)

/-! ### A task gets to its send -/

/-- A step of the task at `n` followed by a run of its steps. -/
theorem run_task_cons {ℓ : TaskLabel} {ls : List TaskLabel} {s₁ s' : Sys} {t₁ t₂ : Task}
    (h₁ : s.taskStep cfg n ℓ = some s₁) (ht₁ : s₁.tasks = s.tasks.set n t₁)
    (h₂ : run cfg s₁ (ls.map (.task n)) = some s') (ht₂ : s'.tasks = s₁.tasks.set n t₂) :
    run cfg s ((ℓ :: ls).map (.task n)) = some s' ∧ s'.tasks = s.tasks.set n t₂ :=
  ⟨by simp [run, step, h₁, h₂], by rw [ht₂, ht₁, List.set_set]⟩

theorem getElem?_of_tasks_set {s₁ : Sys} {t₁ : Task} (hn : n < s.tasks.length)
    (ht₁ : s₁.tasks = s.tasks.set n t₁) : s₁.tasks[n]? = some t₁ := by
  rw [ht₁, List.getElem?_set_self hn]

/-- Once `Serve` returned `err` to the task at `n`, with `ctx` done or `err` nil,
`startFirstTunnel` gives up if the task runs it, and the task waits at its send. -/
theorem run_giveUp {err : Option TunnelErr} (hno : s.ctxDone = true ∨ err = none)
    (ht : s.tasks[n]? = some (t.served err)) :
    ∃ s', run cfg s (t.giveUp.map (.task n)) = some s' ∧
      s'.tasks = s.tasks.set n { t with phase := .send err } := by
  by_cases hf : t.first
  · obtain ⟨s₁, h₁, ht₁⟩ := taskStep_giveUp cfg hno ht
      (show (t.served err).phase = .returned err by simp [Task.served, hf])
    exact ⟨s₁, by simp [Task.giveUp, hf, run, step, h₁], ht₁⟩
  · refine ⟨s, by simp [Task.giveUp, hf, run], ?_⟩
    rw [show ({ t with phase := .send err } : Task) = t.served err by simp [Task.served, hf],
      set_of_getElem?_eq ht]

/-- Once `ctx` is done, `t.cancelLabels` takes the task at `n` to its send. -/
theorem run_cancelLabels (hctx : s.ctxDone = true) (ht : s.tasks[n]? = some t) :
    ∃ s' err, run cfg s (t.cancelLabels.map (.task n)) = some s' ∧
      s'.tasks = s.tasks.set n { t with phase := .send err } := by
  have hn : n < s.tasks.length := (List.getElem?_eq_some_iff.1 ht).1
  obtain ⟨i, first, sig, ph⟩ := t
  cases ph with
  | call =>
    obtain ⟨s₁, p, h₁, ht₁⟩ := taskStep_serve_none cfg ht rfl
    have hctx₁ := (taskStep_sameControl h₁).ctxDone hctx
    obtain ⟨s₂, h₂, ht₂⟩ :=
      taskStep_sessionEnd_canceled cfg hctx₁ (getElem?_of_tasks_set hn ht₁) rfl
    obtain ⟨s', h₃, ht₃⟩ := run_giveUp cfg (.inl ((taskStep_sameControl h₂).ctxDone hctx₁))
      (getElem?_of_tasks_set (by simpa [ht₁] using hn) ht₂)
    obtain ⟨h₂₃, ht₂₃⟩ := run_task_cons cfg h₂ ht₂ h₃ ht₃
    exact ⟨s', _, run_task_cons cfg h₁ ht₁ h₂₃ ht₂₃⟩
  | session p fused =>
    obtain ⟨s₁, h₁, ht₁⟩ := taskStep_sessionEnd_canceled cfg hctx ht rfl
    obtain ⟨s', h₂, ht₂⟩ := run_giveUp cfg (.inl ((taskStep_sameControl h₁).ctxDone hctx))
      (getElem?_of_tasks_set hn ht₁)
    exact ⟨s', _, run_task_cons cfg h₁ ht₁ h₂ ht₂⟩
  | backoff err fb =>
    obtain ⟨e, he⟩ : ∃ e, s.ctxErr = some e := Option.isSome_iff_exists.1 hctx
    obtain ⟨s₁, h₁, ht₁⟩ := taskStep_backoffCanceled cfg he ht rfl
    obtain ⟨s', h₂, ht₂⟩ := run_giveUp cfg (.inl ((taskStep_sameControl h₁).ctxDone hctx))
      (getElem?_of_tasks_set hn ht₁)
    exact ⟨s', _, run_task_cons cfg h₁ ht₁ h₂ ht₂⟩
  | returned err =>
    obtain ⟨s₁, h₁, ht₁⟩ := taskStep_giveUp cfg (.inl hctx) ht rfl
    exact ⟨s₁, err, by simp [Task.cancelLabels, run, step, h₁], ht₁⟩
  | send err => exact ⟨s, err, rfl, (set_of_getElem?_eq ht).symm⟩

/-- Once `gracefulShutdownC` is closed, a task in its backoff `select` gets to its send. -/
theorem run_shutdown_backoff {err : Option TunnelErr} {fb : Bool} (hsc : s.shutdownClosed = true)
    (ht : s.tasks[n]? = some t) (hph : t.phase = .backoff err fb) :
    ∃ s', run cfg s ((.backoffShutdown :: t.giveUp).map (.task n)) = some s' ∧
      s'.tasks = s.tasks.set n { t with phase := .send none } := by
  have hn : n < s.tasks.length := (List.getElem?_eq_some_iff.1 ht).1
  obtain ⟨s₁, h₁, ht₁⟩ := taskStep_backoffShutdown cfg hsc ht hph
  obtain ⟨s', h₂, ht₂⟩ := run_giveUp cfg (.inr rfl) (getElem?_of_tasks_set hn ht₁)
  exact ⟨s', run_task_cons cfg h₁ ht₁ h₂ ht₂⟩

/-- Once `gracefulShutdownC` is closed, a task in a session gets to its send with `nil`: the
session ends without an error, and `Serve` returns at once if `ctx` is done, and otherwise from its
backoff `select`, which takes `gracefulShutdownC`. -/
theorem run_shutdown_session {p : Protocol} {fused : Bool} (hsc : s.shutdownClosed = true)
    (ht : s.tasks[n]? = some t) (hph : t.phase = .session p fused) :
    ∃ ls : List TaskLabel, ∃ s', run cfg s (ls.map (.task n)) = some s' ∧
      s'.tasks = s.tasks.set n { t with phase := .send none } := by
  have hn : n < s.tasks.length := (List.getElem?_eq_some_iff.1 ht).1
  obtain ⟨s₁, h₁, ⟨fb, ht₁⟩ | ht₁⟩ := taskStep_sessionEnd_quiet cfg ht hph
  · obtain ⟨s', h₂, ht₂⟩ := run_shutdown_backoff cfg ((taskStep_sameControl h₁).shutdownClosed hsc)
      (getElem?_of_tasks_set hn ht₁) rfl
    exact ⟨_, s', run_task_cons cfg h₁ ht₁ h₂ ht₂⟩
  · obtain ⟨s', h₂, ht₂⟩ := run_giveUp cfg (.inr rfl) (getElem?_of_tasks_set hn ht₁)
    exact ⟨_, s', run_task_cons cfg h₁ ht₁ h₂ ht₂⟩

/-- Once `gracefulShutdownC` is closed, a task about to call `Serve` gets to its send with
`nil`. -/
theorem run_shutdown_call (hsc : s.shutdownClosed = true) (ht : s.tasks[n]? = some t)
    (hph : t.phase = .call) :
    ∃ ls : List TaskLabel, ∃ s', run cfg s (ls.map (.task n)) = some s' ∧
      s'.tasks = s.tasks.set n { t with phase := .send none } := by
  have hn : n < s.tasks.length := (List.getElem?_eq_some_iff.1 ht).1
  obtain ⟨s₁, p, h₁, ht₁⟩ := taskStep_serve_none cfg ht hph
  obtain ⟨ls, s', h₂, ht₂⟩ := run_shutdown_session cfg
    ((taskStep_sameControl h₁).shutdownClosed hsc) (getElem?_of_tasks_set hn ht₁) rfl
  exact ⟨_, s', run_task_cons cfg h₁ ht₁ h₂ ht₂⟩

/-- Once `gracefulShutdownC` is closed, every task gets to its send. A task of
`startFirstTunnel` that `Serve` returned an error to sends it, or, when the error allows a retry,
calls `Serve` once more and sends `nil`. -/
theorem run_shutdownToSend (hsc : s.shutdownClosed = true) (ht : s.tasks[n]? = some t) :
    ∃ ls : List TaskLabel, ∃ s' err, run cfg s (ls.map (.task n)) = some s' ∧
      s'.tasks = s.tasks.set n { t with phase := .send err } := by
  have hn : n < s.tasks.length := (List.getElem?_eq_some_iff.1 ht).1
  obtain ⟨i, first, sig, ph⟩ := t
  cases ph with
  | call => exact (run_shutdown_call cfg hsc ht rfl).imp fun _ ⟨s', h⟩ => ⟨s', none, h⟩
  | session p fused =>
    exact (run_shutdown_session cfg hsc ht rfl).imp fun _ ⟨s', h⟩ => ⟨s', none, h⟩
  | backoff err fb => exact ⟨_, (run_shutdown_backoff cfg hsc ht rfl).imp fun _ h => ⟨none, h⟩⟩
  | returned err =>
    obtain ⟨s₁, h₁, ht₁ | ht₁⟩ := taskStep_retryFirst cfg ht rfl
    · obtain ⟨ls, s', h₂, ht₂⟩ := run_shutdown_call cfg
        ((taskStep_sameControl h₁).shutdownClosed hsc) (getElem?_of_tasks_set hn ht₁) rfl
      exact ⟨_, s', none, run_task_cons cfg h₁ ht₁ h₂ ht₂⟩
    · exact ⟨[.retryFirst], s₁, err, by simp [run, step, h₁], ht₁⟩
  | send err => exact ⟨[], s, err, rfl, (set_of_getElem?_eq ht).symm⟩

/-- Every task gets to its send, given a predicate `P` on states that the steps of the tasks keep
and, from a state satisfying `P`, a run of any one task to its send: the tasks at the first `k`
positions get there one after the other, and the control goroutine's variables stay as they
are. -/
theorem run_allToSend (P : Sys → Prop) (hP : ∀ {s s' : Sys}, SameControl s s' → P s → P s')
    (hL : ∀ {s : Sys} {n : Nat} {t : Task}, P s → s.tasks[n]? = some t →
      ∃ ls : List TaskLabel, ∃ s' err, run cfg s (ls.map (.task n)) = some s' ∧
        s'.tasks = s.tasks.set n { t with phase := .send err }) :
    ∀ (k : Nat) {s : Sys}, P s → k ≤ s.tasks.length →
      ∃ ls s', run cfg s ls = some s' ∧ SameControl s s' ∧
        ∀ m < k, ∀ t, s'.tasks[m]? = some t → t.phase.isSend
  | 0, s, _, _ => ⟨[], s, rfl, ⟨rfl, rfl, rfl, rfl, rfl, rfl, rfl, .refl _, id, id⟩, by simp⟩
  | k + 1, s, hs, hk => by
    obtain ⟨ls, s₁, h₁, hc₁, hsend₁⟩ := run_allToSend P hP hL k hs (by omega)
    have hlen : s₁.tasks.length = s.tasks.length := by
      simpa [Sys.indices] using congrArg List.length hc₁.indices
    obtain ⟨t, ht⟩ : ∃ t, s₁.tasks[k]? = some t := ⟨_, List.getElem?_eq_getElem (by omega)⟩
    obtain ⟨ls₂, s₂, err, h₂, ht₂⟩ := hL (hP hc₁ hs) ht
    refine ⟨ls ++ ls₂.map (.task k), s₂, by rw [run_append, h₁]; exact h₂,
      hc₁.trans (sameControl_of_taskRun cfg h₂), fun m hm t' ht' => ?_⟩
    rw [ht₂] at ht'
    rcases Nat.lt_succ_iff_lt_or_eq.1 hm with hm | rfl
    · rw [List.getElem?_set_ne (by omega)] at ht'
      exact hsend₁ m hm t' ht'
    · rw [List.getElem?_set_self (by omega)] at ht'
      cases ht'
      rfl

/-- All the tasks of a state at their send, from the positions below its length. -/
theorem forall_isSend_of_getElem? {s : Sys}
    (h : ∀ m < s.tasks.length, ∀ t, s.tasks[m]? = some t → t.phase.isSend) :
    ∀ t ∈ s.tasks, t.phase.isSend := fun t ht => by
  obtain ⟨m, hm, hget⟩ := List.getElem_of_mem ht
  exact h m hm t (by rw [List.getElem?_eq_getElem hm, hget])

/-! ### The loop after the shutdown case -/

/-- After the shutdown case, the event loop receives from the first task and returns `nil` if
that was the last tunnel it counted. -/
theorem supStep_loopReceive_of_shuttingDown {t : Task} {ts : List Task}
    {err : Option TunnelErr} (hpc : s.pc = .loop) (hsd : s.shuttingDown = true)
    (ht : s.tasks = t :: ts) (hsend : t.phase = .send err) :
    ∃ s₁, s.supStep cfg (.loopReceive 0 0) = some s₁ ∧ s₁.tasks = ts ∧
      s₁.tunnelsActive = s.tunnelsActive - 1 ∧ s₁.shuttingDown = true ∧
      s₁.pc = if s.tunnelsActive - 1 = 0 then .exit .allDone else .loop := by
  obtain ⟨i, f, sig, ph⟩ := t
  subst hsend
  simp only [supStep, hpc, if_true, receive, ht, List.getElem?_cons_zero, Option.map_some']
  rw [handleTunnelError_of_shuttingDown ?_]
  · split_ifs with h0 <;> exact ⟨_, rfl, rfl, rfl, hsd, by simp [h0, hpc]⟩
  · exact hsd

end Sys

/-- After the shutdown case, once every task counted waits at its send, the event loop receives
their errors one after the other and returns `nil` after the last. -/
theorem shutdown_receives_all (cfg : Config) :
    ∀ (ts : List Task) {s : Sys}, s.tasks = ts → s.pc = .loop → s.shuttingDown = true →
      (∀ t ∈ ts, t.phase.isSend) → s.tunnelsActive = ts.length → ts ≠ [] →
      ∃ s', run cfg s (List.replicate ts.length (.sup (.loopReceive 0 0))) = some s' ∧
        s'.pc = .exit .allDone
  | [], _, _, _, _, _, _, hne => absurd rfl hne
  | t :: ts, s, hts, hpc, hsd, hsend, hact, _ => by
    obtain ⟨err, hph⟩ := Phase.eq_send_of_isSend (hsend t (.head _))
    obtain ⟨s₁, h₁, hts₁, hact₁, hsd₁, hpc₁⟩ :=
      Sys.supStep_loopReceive_of_shuttingDown cfg hpc hsd hts hph
    rcases ts with _ | ⟨t', ts'⟩
    · exact ⟨s₁, by simpa [run, step] using h₁, by simpa [hact] using hpc₁⟩
    · have hlen : s₁.tunnelsActive = (t' :: ts').length := by rw [hact₁, hact]; simp
      obtain ⟨s', hrun, hpc'⟩ := shutdown_receives_all cfg (t' :: ts') hts₁
        (by rw [hpc₁, if_neg (by rw [hact]; simp; omega)]) hsd₁
        (fun t'' ht'' => hsend t'' (.tail _ ht'')) hlen (List.cons_ne_nil _ _)
      exact ⟨s', by simpa [run, step, h₁] using hrun, hpc'⟩

/-- Once `ctx` is cancelled, from every reachable state of the event loop or of its drain, some
run reaches `Run`'s `return nil` with no task left, unless `initialize` received the first
tunnel's `nil` error; `HAConnections` is at least `1` after the clamp. -/
theorem canceled_run_returns {cfg : Config} (hha : 1 ≤ cfg.clampedHA) {s : Sys}
    (hs : Reachable cfg s) (hctx : s.ctxDone = true) (hpc : s.pc = .loop ∨ s.pc = .drain)
    (hnil : firstTunnelNil ∉ s.log) :
    ∃ ls s', run cfg s ls = some s' ∧ s'.pc = .exit .drained ∧ s'.tasks = [] := by
  have hcount : s.tunnelsActive = s.tasks.length := by
    have hact := active_of_reachable hha hs
    unfold Sys.Active at hact
    rcases hpc with hpc | hpc <;> rw [hpc] at hact <;>
      exact hact.2.resolve_right fun h => hnil h.2.2
  obtain ⟨ls₁, s₁, h₁, hpc₁, hctx₁, hcount₁⟩ : ∃ ls₁ s₁, run cfg s ls₁ = some s₁ ∧
      s₁.pc = .drain ∧ s₁.ctxDone = true ∧ s₁.tunnelsActive = s₁.tasks.length := by
    rcases hpc with hpc | hpc
    · exact ⟨[.sup .loopCanceled], { s with pc := .drain },
        by simp [run, step, Sys.supStep, hpc, hctx], rfl, hctx, hcount⟩
    · exact ⟨[], s, rfl, hpc, hctx, hcount⟩
  obtain ⟨ls₂, s₂, h₂, hc₂, hsend₂⟩ := Sys.run_allToSend cfg (·.ctxDone = true)
    (fun hc => hc.ctxDone)
    (fun hctx ht => (Sys.run_cancelLabels cfg hctx ht).elim fun s' h => ⟨_, s', h⟩)
    s₁.tasks.length hctx₁ le_rfl
  have hlen : s₂.tasks.length = s₁.tasks.length := by
    simpa [Sys.indices] using congrArg List.length hc₂.indices
  obtain ⟨s₃, h₃, hpc₃, ht₃⟩ := drain_completes cfg (hc₂.pc.trans hpc₁)
    (Sys.forall_isSend_of_getElem? (hlen ▸ hsend₂)) (by rw [hc₂.tunnelsActive, hcount₁, hlen])
  exact ⟨ls₁ ++ ls₂ ++ _, s₃,
    by rw [run_append, run_append, h₁, Option.some_bind, h₂, Option.some_bind]; exact h₃, hpc₃, ht₃⟩

/-- After `queueSecond`, `ctx` is cancelled while index `1` waits for the backoff timer. -/
def canceledQueued : Sys :=
  (run twoTunnels (Sys.init twoTunnels) (queueSecond ++ [.env (.cancel .canceled)])).getD (Sys.init twoTunnels)

theorem canceledQueued_reachable : Reachable twoTunnels canceledQueued :=
  reachable_of_run (show run twoTunnels (Sys.init twoTunnels) (queueSecond ++ [.env (.cancel .canceled)]) =
    some canceledQueued from rfl)

theorem canceled_run_returns_canceledQueued :
    1 ≤ twoTunnels.clampedHA ∧ canceledQueued.ctxDone = true ∧
      (canceledQueued.pc = .loop ∨ canceledQueued.pc = .drain) ∧
      firstTunnelNil ∉ canceledQueued.log ∧
      ∃ ls s', run twoTunnels canceledQueued ls = some s' ∧ s'.pc = .exit .drained ∧ s'.tasks = [] :=
  ⟨by decide, rfl, .inl rfl, by decide,
    canceled_run_returns (by decide) canceledQueued_reachable rfl (.inl rfl) (by decide)⟩

/-- Once the event loop has taken the `gracefulShutdownC` case, from every reachable state of it
with a tunnel live or waiting for the backoff timer, some run reaches `Run`'s `return nil`,
unless `initialize` received the first tunnel's `nil` error; `HAConnections` is at least `1`
after the clamp. -/
theorem shutdown_run_returns {cfg : Config} (hha : 1 ≤ cfg.clampedHA) {s : Sys}
    (hs : Reachable cfg s) (hpc : s.pc = .loop) (hsd : s.shuttingDown = true)
    (hlive : s.tasks ≠ [] ∨ s.tunnelsWaiting ≠ []) (hnil : firstTunnelNil ∉ s.log) :
    ∃ ls s', run cfg s ls = some s' ∧ s'.pc = .exit .allDone := by
  have hcount : s.tunnelsActive = s.tasks.length := by
    have hact := active_of_reachable hha hs
    unfold Sys.Active at hact
    rw [hpc] at hact
    exact hact.2.resolve_right fun h => hnil h.2.2
  have hsc := shutdownClosed_of_shuttingDown hs hsd
  obtain ⟨ls₁, s₁, h₁, hpc₁, hsd₁, hsc₁, hcount₁, hne₁⟩ : ∃ ls₁ s₁, run cfg s ls₁ = some s₁ ∧
      s₁.pc = .loop ∧ s₁.shuttingDown = true ∧ s₁.shutdownClosed = true ∧
      s₁.tunnelsActive = s₁.tasks.length ∧ s₁.tasks ≠ [] := by
    by_cases hts : s.tasks = []
    · have hw : s.tunnelsWaiting ≠ [] := hlive.resolve_left (not_not.2 hts)
      have hb : s.backoffTimer = true := (accounting_of_reachable hs).books.armed.1 hw
      obtain ⟨ts, hix, ht₁, -, ha₁, hpc₁, -, hsd₁, hsc₁⟩ := s.fireBackoffTimer_spec
      have hne : ts ≠ [] := by rintro rfl; exact hw hix.symm
      refine ⟨[.sup .loopTimer], s.fireBackoffTimer, by simp [run, step, Sys.supStep, hpc, hb],
        hpc₁.trans hpc, hsd₁.trans hsd, hsc₁.trans hsc, ?_, by simp [ht₁, hts, hne]⟩
      rw [ha₁, ht₁, hcount, hts, ← hix]
      simp
    · exact ⟨[], s, rfl, hpc, hsd, hsc, hcount, hts⟩
  obtain ⟨ls₂, s₂, h₂, hc₂, hsend₂⟩ := Sys.run_allToSend cfg (·.shutdownClosed = true)
    (fun hc => hc.shutdownClosed) (fun hsc ht => Sys.run_shutdownToSend cfg hsc ht)
    s₁.tasks.length hsc₁ le_rfl
  have hlen : s₂.tasks.length = s₁.tasks.length := by
    simpa [Sys.indices] using congrArg List.length hc₂.indices
  obtain ⟨s₃, h₃, hpc₃⟩ := shutdown_receives_all cfg s₂.tasks rfl (hc₂.pc.trans hpc₁)
    (hc₂.shuttingDown.trans hsd₁) (Sys.forall_isSend_of_getElem? (hlen ▸ hsend₂))
    (by rw [hc₂.tunnelsActive, hcount₁, hlen])
    (fun h => hne₁ (List.length_eq_zero.1 (hlen ▸ (List.length_eq_zero.2 h))))
  exact ⟨ls₁ ++ ls₂ ++ _, s₃,
    by rw [run_append, run_append, h₁, Option.some_bind, h₂, Option.some_bind]; exact h₃, hpc₃⟩

theorem shutdown_run_returns_shutDownLoop :
    1 ≤ twoTunnels.clampedHA ∧ shutDownLoop.pc = .loop ∧ shutDownLoop.shuttingDown = true ∧
      (shutDownLoop.tasks ≠ [] ∨ shutDownLoop.tunnelsWaiting ≠ []) ∧
      firstTunnelNil ∉ shutDownLoop.log ∧
      ∃ ls s', run twoTunnels shutDownLoop ls = some s' ∧ s'.pc = .exit .allDone :=
  ⟨by decide, rfl, rfl, .inl (by decide), by decide,
    shutdown_run_returns (by decide) shutDownLoop_reachable rfl rfl (.inl (by decide)) (by decide)⟩

end Cloudflared.Supervisor
