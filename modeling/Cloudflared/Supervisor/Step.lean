import Cloudflared.Supervisor.State
import Cloudflared.TunnelServer

/-!
# One step of a running supervisor

A step is one atomic action of one goroutine, or of the environment. Go's `select` takes any of
its ready cases, and the answers of the collaborators (the context, the graceful-shutdown
channel, the edge-address store, the protocol selector, the backoff timers, the session itself)
can be anything, so all of these are part of the step's label and `step` is a function: the
label says which goroutine moves and what it sees, and `step` returns `none` when the label is
not possible in that state. The one answer that is not free is `GetMaxBackoffDuration`'s: every
handler it is asked of is made with `retryForever`, so it refuses only once `ctx` is done
(`maxBackoffAllows`). A run is a list of labels (`run`), and the reachable states are those
some run reaches from `Sys.init` (`Reachable`).

* The control goroutine follows `initialize` and `Run` (`supStep`): one label for each case of
  each `select` and for each iteration of `initialize`'s loop.
* A serving task follows `Serve` and the loop of `startFirstTunnel` or the body of `startTunnel`
  (`taskStep`): the call of `Serve` with `GetAddr`'s answer, the registration of its session,
  the end of its session with `GetDifferentAddr`'s answer, the three cases of its backoff
  `select`, and `startFirstTunnel`'s decision after `Serve`.
* The environment ends the context, by a cancel or a deadline, closes `gracefulShutdownC`, and
  runs the goroutine a connected fuse starts (`envStep`).

A task step never touches the control goroutine's variables and never adds or removes a task
(`Sys.SameControl`, `taskStep_sameControl`).

## Main definitions

* `EnvLabel`, `SupLabel`, `TaskLabel`, `Label`.
* `maxBackoffAllows`: the answer of `GetMaxBackoffDuration`.
* `firstTunnelRetries`: `startFirstTunnel`'s decision to call `Serve` again.
* `Sys.envStep`, `Sys.supStep`, `Sys.taskStep`, `step`, `run`, `Reachable`.
-/

namespace Cloudflared.Supervisor

/-- A step of the environment. -/
inductive EnvLabel where
  /-- `ctx` is done, and `ctx.Err()` is `err` from then on: `context.Canceled` after its
  cancellation, `context.DeadlineExceeded` once its deadline passed. -/
  | cancel (err : CtxErr)
  /-- `gracefulShutdownC` is closed. -/
  | closeShutdown
  /-- The `n`-th pending connected-fuse goroutine calls `connectedSignal.Notify()`. -/
  | notify (n : Nat)
  deriving DecidableEq, Repr

/-- A step of the control goroutine, with what it reads from its collaborators. -/
inductive SupLabel where
  /-- `initialize` clamps `HAConnections`, seeds index `0` with `selector.Current()` and starts
  `startFirstTunnel`. -/
  | initStart (current : Protocol)
  /-- `initialize`'s `select`: `ctx.Done`. -/
  | initCanceled
  /-- `initialize`'s `<-s.tunnelErrors` after `ctx.Done`, from the task at `n`. -/
  | initDrain (n : Nat)
  /-- `initialize`'s `select`: a `tunnelError`, from the task at `n`. -/
  | initReceive (n : Nat)
  /-- `initialize`'s `select`: `gracefulShutdownC`. -/
  | initShutdown
  /-- `initialize`'s `select`: `connectedSignal.Wait()`. -/
  | initConnected
  /-- An iteration of `initialize`'s loop. -/
  | spawnSibling
  /-- `initialize`'s loop ends and `Run` enters its event loop. -/
  | startLoop
  /-- The event loop's `select`: `ctx.Done`. -/
  | loopCanceled
  /-- An iteration of the drain, from the task at `n`. -/
  | drainReceive (n : Nat)
  /-- The drain ends. -/
  | drainDone
  /-- The event loop's `select`: a `tunnelError`, from the task at `n`, with the entry
  `waitForNextTunnel`'s iteration yields first. -/
  | loopReceive (n : Nat) (pick : Nat)
  /-- The event loop's `select`: `backoffTimer`. -/
  | loopTimer
  /-- The event loop's `select`: `nextConnectedSignal`. -/
  | loopConnected (pick : Nat)
  /-- The event loop's `select`: `gracefulShutdownC`. -/
  | loopShutdown
  deriving DecidableEq, Repr

/-- A step of a serving task, with what it reads from its collaborators. -/
inductive TaskLabel where
  /-- `Serve` is called; `GetAddr`'s error, if it fails. -/
  | serve (addrErr : Option TunnelErr)
  /-- The session registers: `connectedFuse.Connected()`. -/
  | connect
  /-- The session ends as `a` says; `GetDifferentAddr`'s error if it fails. -/
  | sessionEnd (a : Attempt) (differentAddr : Option TunnelErr)
  /-- `Serve`'s backoff `select`: `ctx.Done`. -/
  | backoffCanceled
  /-- `Serve`'s backoff `select`: `gracefulShutdownC`. -/
  | backoffShutdown
  /-- `Serve`'s backoff `select`: `protocolFallback.BackoffTimer()`, with the selector's answers
  and `ReachedMaxRetries()`. -/
  | backoffFired (selector : ProtocolSelector) (reachedMaxRetries : Bool)
  /-- `startFirstTunnel` after `Serve`. -/
  | retryFirst
  deriving DecidableEq, Repr

/-- Which goroutine moves. -/
inductive Label where
  | env (l : EnvLabel)
  | sup (l : SupLabel)
  /-- The serving task at position `n` of `tasks`. -/
  | task (n : Nat) (l : TaskLabel)
  deriving DecidableEq, Repr

/-- `GetMaxBackoffDuration(ctx)`'s `ok` on the backoff of a `protocolFallback`. `initialize`
makes every one of them by `retry.NewBackoff(s.config.Retries, retry.DefaultBaseTime, true)`,
with `retryForever` set, so the handler refuses the wait only when `ctx` is done. -/
def maxBackoffAllows (ctxDone : Bool) : Bool := !ctxDone

theorem ctxDone_of_not_maxBackoffAllows {ctxDone : Bool} (h : ¬maxBackoffAllows ctxDone = true) :
    ctxDone = true := by
  simpa [maxBackoffAllows] using h

/-- `startFirstTunnel`'s loop after `Serve` returned `err`: `true` when it calls `Serve` again.
`retry` is the answer of `GetMaxBackoffDuration`. -/
def firstTunnelRetries (isStaticEdge ctxDone : Bool) (err : Option TunnelErr) (retry : Bool) :
    Bool :=
  match err with
  | none => false
  | some e =>
    if ctxDone || !retry then false
    else if containsText e.text "Unauthorized" then true
    else
      match e with
      | .noAddressesLeft _ => isStaticEdge
      | .dupConnRegister _ | .idleTimeout _ | .application _ | .dial _ | .edgeQuicDial _ _
      | .controlStream _ | .streamListener _ | .datagramManager _ => true
      | _ => false

namespace Sys

/-- `Run` after `initialize` returned `nil`, at its event loop. -/
def enterLoop (s : Sys) : Sys :=
  { s with pc := .loop, tunnelsWaiting := [], tunnelsActive := s.haConnections,
           backoffTimer := false, shuttingDown := false }

/-- A receive from `s.tunnelErrors`, from the task at `n` if it is at its send: the state after,
the task's index and its error. -/
def receive (s : Sys) (n : Nat) (site : RecvSite) : Option (Sys × Nat × Option TunnelErr) :=
  match s.tasks[n]? with
  | some ⟨i, _, _, .send err⟩ =>
    some ({ s with tasks := s.tasks.eraseIdx n, log := s.log ++ [.received i err site] }, i, err)
  | _ => none

/-- The event loop's `tunnelError` case, after the receive. -/
def handleTunnelError (s : Sys) (i : Nat) (err : Option TunnelErr) (retry : Bool) (pick : Nat) :
    Sys :=
  let s := { s with tunnelsActive := s.tunnelsActive - 1 }
  match err, s.shuttingDown with
  | some e, false =>
    if e.isReconnectSignal then { s.startTunnel i with tunnelsActive := s.tunnelsActive + 1 }
    else if retry then
      { (s.waitForNextTunnel i pick).1 with
        tunnelsWaiting := s.tunnelsWaiting ++ [i], backoffTimer := true }
    else s
  | _, _ => if s.tunnelsActive = 0 then { s with pc := .exit .allDone } else s

/-- `for _, index := range tunnelsWaiting { go s.startTunnel(…) }`. -/
def respawnWaiting (s : Sys) : List Nat → Sys
  | [] => s
  | i :: is => (s.startTunnel i).respawnWaiting is

/-- The event loop's `backoffTimer` case. -/
def fireBackoffTimer (s : Sys) : Sys :=
  let s' := ({ s with backoffTimer := false }.logEvent (.timerFired s.tunnelsWaiting)).respawnWaiting
    s.tunnelsWaiting
  { s' with tunnelsActive := s'.tunnelsActive + s.tunnelsWaiting.length, tunnelsWaiting := [] }

/-- `s.tunnelsProtocolFallback[i] = pf`. -/
def setFallback (s : Sys) (i : Nat) (pf : ProtocolFallback) : Sys :=
  { s with tunnelsProtocolFallback := Function.update s.tunnelsProtocolFallback i pf }

/-- `initialize`'s `s.tunnelsProtocolFallback[i] = &protocolFallback{…}` for a sibling, followed
by its start. -/
def spawnSiblingAt (s : Sys) (i : Nat) : Sys :=
  let s' := s.setFallback i (.seed (s.tunnelsProtocolFallback 0).protocol)
  { s'.startTunnel i with pc := .siblings (i + 1) }

/-- A step of the control goroutine. -/
def supStep (cfg : Config) (s : Sys) : SupLabel → Option Sys
  | .initStart current =>
    if s.pc = .start then
      some ({ s with
        haConnections :=
          if s.haConnections > cfg.availableAddrs then cfg.availableAddrs else s.haConnections
        tunnelsProtocolFallback := Function.update s.tunnelsProtocolFallback 0 (.seed current)
        pc := .initWait }.spawn ⟨0, true, .run, .call⟩)
    else none
  | .initCanceled => if s.pc = .initWait ∧ s.ctxDone then some { s with pc := .initDrain } else none
  | .initDrain n =>
    match s.pc, s.ctxErr with
    | .initDrain, some e =>
      (s.receive n .initCtxDone).map fun r => { r.1 with pc := .exit (.initFailed e.err) }
    | _, _ => none
  | .initReceive n =>
    if s.pc = .initWait then
      (s.receive n .initSelect).map fun r =>
        match r.2.2 with
        | some e => { r.1 with pc := .exit (.initFailed e) }
        | none => r.1.enterLoop
    else none
  | .initShutdown =>
    if s.pc = .initWait ∧ s.shutdownClosed then some { s with pc := .exit .earlyShutdown } else none
  | .initConnected =>
    if s.pc = .initWait ∧ Signal.run ∈ s.closedSignals then some { s with pc := .siblings 1 }
    else none
  | .spawnSibling =>
    match s.pc with
    | .siblings i => if (i : Int) < s.haConnections then some (s.spawnSiblingAt i) else none
    | _ => none
  | .startLoop =>
    match s.pc with
    | .siblings i => if (i : Int) < s.haConnections then none else some s.enterLoop
    | _ => none
  | .loopCanceled => if s.pc = .loop ∧ s.ctxDone then some { s with pc := .drain } else none
  | .drainReceive n =>
    if s.pc = .drain ∧ 0 < s.tunnelsActive then
      (s.receive n .loopCtxDone).map fun r => { r.1 with tunnelsActive := r.1.tunnelsActive - 1 }
    else none
  | .drainDone =>
    if s.pc = .drain ∧ s.tunnelsActive ≤ 0 then some { s with pc := .exit .drained } else none
  | .loopReceive n pick =>
    if s.pc = .loop then
      (s.receive n .loopSelect).map fun r =>
        r.1.handleTunnelError r.2.1 r.2.2 (maxBackoffAllows s.ctxDone) pick
    else none
  | .loopTimer => if s.pc = .loop ∧ s.backoffTimer then some s.fireBackoffTimer else none
  | .loopConnected pick =>
    match s.pc, s.nextConnectedSignal with
    | .loop, some ch =>
      if Signal.chan ch ∈ s.closedSignals then
        some (s.waitForNextTunnel s.nextConnectedIndex pick).1
      else none
    | _, _ => none
  | .loopShutdown =>
    if s.pc = .loop ∧ s.shutdownClosed then some { s with shuttingDown := true } else none

/-- The steps of `initialize`'s sibling loop and of the event loop's connected-signal case,
whose guards are matches. -/
theorem supStep_spawnSibling {cfg : Config} {s s' : Sys}
    (h : s.supStep cfg .spawnSibling = some s') :
    ∃ i, s.pc = .siblings i ∧ (i : Int) < s.haConnections ∧ s' = s.spawnSiblingAt i := by
  simp only [supStep] at h
  split at h
  · simp only [Option.ite_none_right_eq_some, Option.some.injEq] at h
    exact ⟨_, ‹_›, h.1, h.2.symm⟩
  · cases h

theorem supStep_initDrain {cfg : Config} {s s' : Sys} {n : Nat}
    (h : s.supStep cfg (.initDrain n) = some s') :
    s.pc = .initDrain ∧ ∃ e r, s.ctxErr = some e ∧ s.receive n .initCtxDone = some r ∧
      s' = { r.1 with pc := .exit (.initFailed e.err) } := by
  simp only [supStep] at h
  split at h
  · simp only [Option.map_eq_some'] at h
    obtain ⟨r, hr, rfl⟩ := h
    exact ⟨‹_›, _, r, ‹_›, hr, rfl⟩
  · cases h

theorem supStep_startLoop {cfg : Config} {s s' : Sys} (h : s.supStep cfg .startLoop = some s') :
    ∃ i, s.pc = .siblings i ∧ ¬(i : Int) < s.haConnections ∧ s' = s.enterLoop := by
  simp only [supStep] at h
  split at h
  · simp only [Option.ite_none_left_eq_some, Option.some.injEq] at h
    exact ⟨_, ‹_›, h.1, h.2.symm⟩
  · cases h

theorem supStep_loopConnected {cfg : Config} {s s' : Sys} {pick : Nat}
    (h : s.supStep cfg (.loopConnected pick) = some s') :
    s.pc = .loop ∧ (∃ ch, s.nextConnectedSignal = some ch ∧ Signal.chan ch ∈ s.closedSignals) ∧
      s' = (s.waitForNextTunnel s.nextConnectedIndex pick).1 := by
  simp only [supStep] at h
  split at h
  · simp only [Option.ite_none_right_eq_some, Option.some.injEq] at h
    exact ⟨‹_›, ⟨_, ‹_›, h.1⟩, h.2.symm⟩
  · cases h

/-- The task at `n` moves to phase `ph`. -/
def setPhase (s : Sys) (n : Nat) (t : Task) (ph : Phase) : Sys :=
  { s with tasks := s.tasks.set n { t with phase := ph } }

/-- `Serve` on the task at `n` returns `err` from `exit`: to `startFirstTunnel`'s loop, or to the
send of `startTunnel`. -/
def returnServe (s : Sys) (n : Nat) (t : Task) (err : Option TunnelErr) (exit : ServeExit) : Sys :=
  (s.setPhase n t (if t.first then .returned err else .send err)).logEvent
    (.serveReturned t.index err exit)

/-- A step of the serving task at position `n`. -/
def taskStep (cfg : Config) (s : Sys) (n : Nat) (l : TaskLabel) : Option Sys :=
  match s.tasks[n]? with
  | none => none
  | some t =>
    match t.phase, l with
    | .call, .serve addrErr =>
      let s := s.logEvent (.serveCalled t.index)
      match addrErr with
      | some e => some (s.returnServe n t (some e) .getAddr)
      | none =>
        let proto := (s.tunnelsProtocolFallback t.index).protocol
        some ((s.setPhase n t (.session proto false)).logEvent (.attempted t.index proto))
    | .session proto false, .connect =>
      some ({ (s.setPhase n t (.session proto true)).setFallback t.index
          (s.tunnelsProtocolFallback t.index).reset with
        connectedWith := s.connectedWith ++ [proto]
        pendingNotify := s.pendingNotify ++ [t.signal] }.logEvent (.connected t.index proto))
    | .session proto fused, .sessionEnd a differentAddr =>
      if fused && !(a.registers proto) then none
      else
        let r := serveTunnel proto a
        let h := s.edgeAddrHandler.shouldGetNewAddress t.connIndex r.1
        let s' := { s with edgeAddrHandler := h.2 }
        if h.1.1 && differentAddr.isSome then some (s'.returnServe n t differentAddr .differentAddr)
        else if maxBackoffAllows s.ctxDone then
          some (s'.setPhase n t (.backoff r.1 (fallbackAfterRotation r.2 h.1.1 h.1.2)))
        else some (s'.returnServe n t r.1 .noBackoff)
    | .backoff _ _, .backoffCanceled =>
      match s.ctxErr with
      | some e => some (s.returnServe n t (some e.err) .backoff)
      | none => none
    | .backoff _ _, .backoffShutdown =>
      if s.shutdownClosed then some (s.returnServe n t none .backoff) else none
    | .backoff err shouldFallback, .backoffFired sel reached =>
      let s := s.logEvent (.backoffFired t.index)
      if shouldFallback && !(sel.current ∈ s.connectedWith) then
        some ((s.setFallback t.index
          (selectNextProtocol (s.tunnelsProtocolFallback t.index) reached sel err).2).returnServe
            n t err .backoff)
      else some (s.returnServe n t err .backoff)
    | .returned err, .retryFirst =>
      if firstTunnelRetries cfg.isStaticEdge s.ctxDone err (maxBackoffAllows s.ctxDone) then
        some ((s.setPhase n t .call).logEvent (.retriedInline t.index))
      else some (s.setPhase n t (.send err))
    | _, _ => none

/-- A step of the environment. -/
def envStep (s : Sys) : EnvLabel → Option Sys
  | .cancel e => if s.ctxDone then none else some { s with ctxErr := some e }
  | .closeShutdown => if s.shutdownClosed then none else some { s with shutdownClosed := true }
  | .notify n =>
    match s.pendingNotify[n]? with
    | some sig =>
      some { s with pendingNotify := s.pendingNotify.eraseIdx n,
                    closedSignals := s.closedSignals ++ [sig] }
    | none => none

end Sys

/-- One step of the whole system. -/
def step (cfg : Config) (s : Sys) : Label → Option Sys
  | .env l => s.envStep l
  | .sup l => s.supStep cfg l
  | .task n l => s.taskStep cfg n l

/-- The steps of a list of labels, in order. -/
def run (cfg : Config) : Sys → List Label → Option Sys
  | s, [] => some s
  | s, l :: ls => (step cfg s l).bind (run cfg · ls)

/-- A run of `ls ++ ls'` is the run of `ls` followed by that of `ls'`. -/
theorem run_append (cfg : Config) (s : Sys) (ls ls' : List Label) :
    run cfg s (ls ++ ls') = (run cfg s ls).bind (run cfg · ls') := by
  induction ls generalizing s with
  | nil => rfl
  | cons l ls ih =>
    simp only [List.cons_append, run]
    cases step cfg s l with
    | none => rfl
    | some s₁ => exact ih s₁

/-- The states some run of `Run` reaches. -/
inductive Reachable (cfg : Config) : Sys → Prop where
  | init : Reachable cfg (Sys.init cfg)
  | step {s s' : Sys} (l : Label) : Reachable cfg s → step cfg s l = some s' → Reachable cfg s'

theorem Reachable.run {cfg : Config} {s s' : Sys} (hs : Reachable cfg s) :
    ∀ {ls : List Label}, run cfg s ls = some s' → Reachable cfg s'
  | [], h => by cases h; exact hs
  | l :: ls, h => by
    simp only [Supervisor.run, Option.bind_eq_some] at h
    obtain ⟨s₁, h₁, h₂⟩ := h
    exact (hs.step l h₁).run h₂

/-- A state a run from `Sys.init` reaches is reachable. -/
theorem reachable_of_run {cfg : Config} {ls : List Label} {s : Sys}
    (h : run cfg (Sys.init cfg) ls = some s) : Reachable cfg s :=
  Reachable.init.run h

end Cloudflared.Supervisor
