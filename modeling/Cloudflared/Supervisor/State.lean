import Cloudflared.EdgeAddrHandler
import Cloudflared.ProtocolFallback

/-!
# The state of a running supervisor

`Supervisor.Run` is one goroutine, the control loop, talking over an unbuffered channel
`tunnelErrors` to one goroutine for each serving task (`startFirstTunnel` for index `0`,
`startTunnel` for the others). `Sys` holds all of it at one instant: where the control loop is
(`SupPc`) and its variables, the serving tasks that have been spawned and whose `tunnelError` has
not been received yet (`tasks`), the connected-signal channels, the context and the graceful
shutdown channel, and the two collaborators the tasks share, the edge-address handler and the
connection tracker.

A serving task blocked on its send to `tunnelErrors` is in phase `send`; the control loop
receiving from the channel takes such a task out of `tasks`. So `tasks` is, by construction, the
list of live tasks.

`log` is not a variable of the program: it records what happened, in order (spawns, receipts,
`Serve` invocations and returns, timers firing), so that properties of whole runs can be stated
over it.

## Main definitions

* `Config`, `Signal`, `Phase`, `Task`, `Exit`, `SupPc`, `RecvSite`, `ServeExit`, `Event`, `Sys`,
  `Sys.init`, `Sys.ctxDone`.
* `Sys.spawn`, `Sys.startTunnel`, `Sys.newConnectedTunnelSignal`, `Sys.waitForNextTunnel`,
  `Sys.indices`, `Sys.liveCount`, `spawnedCount`, `receivedCount`, `Event.isControl`.
-/

namespace Cloudflared.Supervisor

/-- The part of `TunnelConfig` and of the edge-address store that `Run` reads. -/
structure Config where
  /-- `config.HAConnections`, before the clamp in `initialize`. -/
  haConnections : Int
  /-- `edgeIPs.AvailableAddrs()`. -/
  availableAddrs : Nat
  /-- `len(config.EdgeAddrs) > 0`. -/
  isStaticEdge : Bool
  /-- `config.MaxEdgeAddrRetries`. -/
  maxEdgeAddrRetries : UInt8

/-- `HAConnections` after the clamp of `initialize`. -/
def Config.clampedHA (cfg : Config) : Int :=
  if cfg.haConnections > cfg.availableAddrs then cfg.availableAddrs else cfg.haConnections

/-- A connected signal: `Run`'s `connectedSignal`, or a channel made by
`newConnectedTunnelSignal`. -/
inductive Signal where
  | run
  | chan (id : Nat)
  deriving DecidableEq, Repr

/-- Where a serving task is. -/
inductive Phase where
  /-- About to call `Serve`. -/
  | call
  /-- In `serveTunnel` with the protocol read at the call; `fused` once the session registered. -/
  | session (proto : Protocol) (fused : Bool)
  /-- In `Serve`'s `select` on the protocol backoff timer, with `Serve`'s error and
  `shouldFallbackProtocol`. -/
  | backoff (err : Option TunnelErr) (shouldFallback : Bool)
  /-- `Serve` returned this error to `startFirstTunnel`'s loop. -/
  | returned (err : Option TunnelErr)
  /-- Blocked on `s.tunnelErrors <- tunnelError{index, err}`. -/
  | send (err : Option TunnelErr)
  deriving DecidableEq, Repr

/-- A serving task: its connection index, whether it runs `startFirstTunnel`, the connected signal
it was given, and its phase. -/
structure Task where
  index : Nat
  first : Bool
  signal : Signal
  phase : Phase
  deriving DecidableEq, Repr

/-- `uint8(index)`, the `connIndex` the task's `Serve` uses. -/
def Task.connIndex (t : Task) : UInt8 := UInt8.ofNat t.index

/-- The `return` statement through which `Run` returned. -/
inductive Exit where
  /-- `initialize` returned `errEarlyShutdown`: `return nil`. -/
  | earlyShutdown
  /-- `initialize` returned this error: `return err`. -/
  | initFailed (err : TunnelErr)
  /-- After the `ctx.Done` drain: `return nil`. -/
  | drained
  /-- "no more connections active and exiting": `return nil`. -/
  | allDone
  deriving DecidableEq, Repr

/-- The error `Run` returns. -/
def Exit.result : Exit → Option TunnelErr
  | initFailed e => some e
  | _ => none

/-- Where the control goroutine is. -/
inductive SupPc where
  /-- `Run` has not started `initialize` yet. -/
  | start
  /-- `initialize`'s `select` on the first tunnel. -/
  | initWait
  /-- `initialize`'s `ctx.Done` case, at `<-s.tunnelErrors`. -/
  | initDrain
  /-- `initialize`'s loop, about to start index `i`. -/
  | siblings (i : Nat)
  /-- The event loop's `select`. -/
  | loop
  /-- The event loop's `ctx.Done` case, draining the active tunnels. -/
  | drain
  /-- `Run` returned. -/
  | exit (site : Exit)
  deriving DecidableEq, Repr

/-- The receive statement that took a `tunnelError`. -/
inductive RecvSite where
  | initSelect
  | initCtxDone
  | loopSelect
  | loopCtxDone
  deriving DecidableEq, Repr

/-- Where `Serve` returned. -/
inductive ServeExit where
  /-- `GetAddr` failed. -/
  | getAddr
  /-- The session asked for a new address and `GetDifferentAddr` failed. -/
  | differentAddr
  /-- `GetMaxBackoffDuration` refused the wait. -/
  | noBackoff
  /-- From its backoff `select`. -/
  | backoff
  deriving DecidableEq, Repr

/-- `Serve` returned before its backoff `select` because an edge address could not be had. -/
def ServeExit.addrFailed : ServeExit → Bool
  | getAddr | differentAddr => true
  | _ => false

/-- What the log records. -/
inductive Event where
  /-- A serving task for this index was started. -/
  | spawned (index : Nat)
  /-- The control loop received this index's `tunnelError`. -/
  | received (index : Nat) (err : Option TunnelErr) (site : RecvSite)
  /-- `Serve` was invoked on this index. -/
  | serveCalled (index : Nat)
  /-- `serveTunnel` ran on this index with this protocol. -/
  | attempted (index : Nat) (proto : Protocol)
  /-- `Serve` on this index returned, from `exit`. -/
  | serveReturned (index : Nat) (err : Option TunnelErr) (exit : ServeExit)
  /-- The protocol backoff timer of `Serve` on this index fired. -/
  | backoffFired (index : Nat)
  /-- The control loop's `backoffTimer` fired, with these indices waiting. -/
  | timerFired (indices : List Nat)
  /-- `startFirstTunnel` continued its loop on this index. -/
  | retriedInline (index : Nat)
  /-- A session of this index registered with this protocol. -/
  | connected (index : Nat) (proto : Protocol)
  deriving DecidableEq, Repr

/-- The event is the spawn of a task whose index satisfies `p`. -/
def Event.isSpawnIn (p : Nat → Bool) : Event → Bool
  | spawned j => p j
  | _ => false

/-- The event is the receipt of the `tunnelError` of an index that satisfies `p`. -/
def Event.isReceiptIn (p : Nat → Bool) : Event → Bool
  | received j _ _ => p j
  | _ => false

/-- Spawns and receipts, the events the control loop's accounting is about. -/
def Event.isControl : Event → Bool
  | spawned _ | received _ _ _ => true
  | _ => false

theorem Event.isSpawnIn_eq_false {e : Event} (he : e.isControl = false) (p : Nat → Bool) :
    e.isSpawnIn p = false := by
  cases e <;> simp_all [isControl, isSpawnIn]

theorem Event.isReceiptIn_eq_false {e : Event} (he : e.isControl = false) (p : Nat → Bool) :
    e.isReceiptIn p = false := by
  cases e <;> simp_all [isControl, isReceiptIn]

/-- The supervisor, its serving tasks and what they share, at one instant. -/
structure Sys where
  /-- `ctx.Err()`: `none` while `ctx` is live. -/
  ctxErr : Option CtxErr
  /-- `gracefulShutdownC` is closed. -/
  shutdownClosed : Bool
  pc : SupPc
  /-- `s.config.HAConnections`. -/
  haConnections : Int
  tunnelsProtocolFallback : Nat → ProtocolFallback
  /-- `s.tunnelsConnecting`, as a list of `(index, channel)` with no index twice. -/
  tunnelsConnecting : List (Nat × Nat)
  nextConnectedIndex : Nat
  nextConnectedSignal : Option Nat
  tunnelsWaiting : List Nat
  tunnelsActive : Int
  /-- `backoffTimer != nil`. -/
  backoffTimer : Bool
  shuttingDown : Bool
  /-- The live serving tasks, in the order they were spawned. -/
  tasks : List Task
  /-- The connected signals notified so far (closed channels). -/
  closedSignals : List Signal
  /-- Connected-fuse goroutines that saw their fuse latch `true` and are about to `Notify`. -/
  pendingNotify : List Signal
  /-- The next fresh channel. -/
  nextChan : Nat
  edgeAddrHandler : IPAddrFallback
  /-- The protocols some session registered with (`tracker.HasConnectedWith`). -/
  connectedWith : List Protocol
  log : List Event

/-- The state at the call of `Run`. The map `tunnelsProtocolFallback` is empty there; its value
at an index no task uses is never read. -/
def Sys.init (cfg : Config) : Sys where
  ctxErr := none
  shutdownClosed := false
  pc := .start
  haConnections := cfg.haConnections
  tunnelsProtocolFallback := fun _ => .seed .quic
  tunnelsConnecting := []
  nextConnectedIndex := 0
  nextConnectedSignal := none
  tunnelsWaiting := []
  tunnelsActive := 0
  backoffTimer := false
  shuttingDown := false
  tasks := []
  closedSignals := []
  pendingNotify := []
  nextChan := 0
  edgeAddrHandler := newIPAddrFallback cfg.maxEdgeAddrRetries
  connectedWith := []
  log := []

namespace Sys

/-- `ctx` is done: `ctx.Done()` is closed. -/
def ctxDone (s : Sys) : Bool := s.ctxErr.isSome

/-- The indices of the live tasks. -/
def indices (s : Sys) : List Nat := s.tasks.map (·.index)

/-- The number of live tasks of index `i`. -/
def liveCount (s : Sys) (i : Nat) : Nat := s.indices.count i

/-- `go …(task)`: a new serving task. -/
def spawn (s : Sys) (t : Task) : Sys :=
  { s with tasks := s.tasks ++ [t], log := s.log ++ [.spawned t.index] }

/-- `newConnectedTunnelSignal(index)`: a fresh channel, recorded as `tunnelsConnecting[index]`
and as the next signal to wait for. -/
def newConnectedTunnelSignal (s : Sys) (index : Nat) : Sys × Signal :=
  ({ s with
      tunnelsConnecting := (index, s.nextChan) :: s.tunnelsConnecting.filter (·.1 ≠ index)
      nextConnectedSignal := some s.nextChan
      nextConnectedIndex := index
      nextChan := s.nextChan + 1 }, .chan s.nextChan)

/-- `go s.startTunnel(ctx, index, s.newConnectedTunnelSignal(index))`. -/
def startTunnel (s : Sys) (index : Nat) : Sys :=
  let (s', sig) := s.newConnectedTunnelSignal index
  s'.spawn ⟨index, false, sig, .call⟩

/-- `waitForNextTunnel(index)`, where Go's randomized map iteration yields the entry at `pick`
(modulo the size of the map) first. -/
def waitForNextTunnel (s : Sys) (index pick : Nat) : Sys × Bool :=
  let rest := s.tunnelsConnecting.filter (·.1 ≠ index)
  let next := rest[pick % rest.length]?
  ({ s with
      tunnelsConnecting := rest
      nextConnectedIndex := (next.map (·.1)).getD s.nextConnectedIndex
      nextConnectedSignal := next.map (·.2) }, next.isSome)

/-- `s.log = append(s.log, e)`. -/
def logEvent (s : Sys) (e : Event) : Sys := { s with log := s.log ++ [e] }

@[simp] theorem spawn_tasks (s : Sys) (t : Task) : (s.spawn t).tasks = s.tasks ++ [t] := rfl
@[simp] theorem spawn_log (s : Sys) (t : Task) : (s.spawn t).log = s.log ++ [.spawned t.index] :=
  rfl
@[simp] theorem spawn_pc (s : Sys) (t : Task) : (s.spawn t).pc = s.pc := rfl
@[simp] theorem spawn_tunnelsWaiting (s : Sys) (t : Task) :
    (s.spawn t).tunnelsWaiting = s.tunnelsWaiting := rfl
@[simp] theorem spawn_backoffTimer (s : Sys) (t : Task) :
    (s.spawn t).backoffTimer = s.backoffTimer := rfl
@[simp] theorem spawn_tunnelsActive (s : Sys) (t : Task) :
    (s.spawn t).tunnelsActive = s.tunnelsActive := rfl
@[simp] theorem spawn_shuttingDown (s : Sys) (t : Task) :
    (s.spawn t).shuttingDown = s.shuttingDown := rfl
@[simp] theorem spawn_haConnections (s : Sys) (t : Task) :
    (s.spawn t).haConnections = s.haConnections := rfl
@[simp] theorem spawn_shutdownClosed (s : Sys) (t : Task) :
    (s.spawn t).shutdownClosed = s.shutdownClosed := rfl
@[simp] theorem spawn_tunnelsProtocolFallback (s : Sys) (t : Task) :
    (s.spawn t).tunnelsProtocolFallback = s.tunnelsProtocolFallback := rfl
@[simp] theorem spawn_connectedWith (s : Sys) (t : Task) :
    (s.spawn t).connectedWith = s.connectedWith := rfl

@[simp] theorem startTunnel_tasks (s : Sys) (i : Nat) :
    (s.startTunnel i).tasks = s.tasks ++ [⟨i, false, .chan s.nextChan, .call⟩] := rfl
@[simp] theorem startTunnel_log (s : Sys) (i : Nat) :
    (s.startTunnel i).log = s.log ++ [.spawned i] := rfl
@[simp] theorem startTunnel_pc (s : Sys) (i : Nat) : (s.startTunnel i).pc = s.pc := rfl
@[simp] theorem startTunnel_tunnelsWaiting (s : Sys) (i : Nat) :
    (s.startTunnel i).tunnelsWaiting = s.tunnelsWaiting := rfl
@[simp] theorem startTunnel_backoffTimer (s : Sys) (i : Nat) :
    (s.startTunnel i).backoffTimer = s.backoffTimer := rfl
@[simp] theorem startTunnel_tunnelsActive (s : Sys) (i : Nat) :
    (s.startTunnel i).tunnelsActive = s.tunnelsActive := rfl
@[simp] theorem startTunnel_shuttingDown (s : Sys) (i : Nat) :
    (s.startTunnel i).shuttingDown = s.shuttingDown := rfl
@[simp] theorem startTunnel_haConnections (s : Sys) (i : Nat) :
    (s.startTunnel i).haConnections = s.haConnections := rfl
@[simp] theorem startTunnel_shutdownClosed (s : Sys) (i : Nat) :
    (s.startTunnel i).shutdownClosed = s.shutdownClosed := rfl
@[simp] theorem startTunnel_tunnelsProtocolFallback (s : Sys) (i : Nat) :
    (s.startTunnel i).tunnelsProtocolFallback = s.tunnelsProtocolFallback := rfl
@[simp] theorem startTunnel_connectedWith (s : Sys) (i : Nat) :
    (s.startTunnel i).connectedWith = s.connectedWith := rfl

@[simp] theorem waitForNextTunnel_tasks (s : Sys) (i k : Nat) :
    (s.waitForNextTunnel i k).1.tasks = s.tasks := rfl
@[simp] theorem waitForNextTunnel_log (s : Sys) (i k : Nat) :
    (s.waitForNextTunnel i k).1.log = s.log := rfl
@[simp] theorem waitForNextTunnel_pc (s : Sys) (i k : Nat) :
    (s.waitForNextTunnel i k).1.pc = s.pc := rfl
@[simp] theorem waitForNextTunnel_tunnelsWaiting (s : Sys) (i k : Nat) :
    (s.waitForNextTunnel i k).1.tunnelsWaiting = s.tunnelsWaiting := rfl
@[simp] theorem waitForNextTunnel_backoffTimer (s : Sys) (i k : Nat) :
    (s.waitForNextTunnel i k).1.backoffTimer = s.backoffTimer := rfl
@[simp] theorem waitForNextTunnel_tunnelsActive (s : Sys) (i k : Nat) :
    (s.waitForNextTunnel i k).1.tunnelsActive = s.tunnelsActive := rfl
@[simp] theorem waitForNextTunnel_shuttingDown (s : Sys) (i k : Nat) :
    (s.waitForNextTunnel i k).1.shuttingDown = s.shuttingDown := rfl
@[simp] theorem waitForNextTunnel_haConnections (s : Sys) (i k : Nat) :
    (s.waitForNextTunnel i k).1.haConnections = s.haConnections := rfl
@[simp] theorem waitForNextTunnel_shutdownClosed (s : Sys) (i k : Nat) :
    (s.waitForNextTunnel i k).1.shutdownClosed = s.shutdownClosed := rfl
@[simp] theorem waitForNextTunnel_tunnelsProtocolFallback (s : Sys) (i k : Nat) :
    (s.waitForNextTunnel i k).1.tunnelsProtocolFallback = s.tunnelsProtocolFallback := rfl
@[simp] theorem waitForNextTunnel_connectedWith (s : Sys) (i k : Nat) :
    (s.waitForNextTunnel i k).1.connectedWith = s.connectedWith := rfl

end Sys

/-- The number of spawns in a log of tasks whose index satisfies `p`. -/
def spawnedCount (p : Nat → Bool) (log : List Event) : Nat := log.countP (Event.isSpawnIn p)

/-- The number of receipts in a log of the `tunnelError`s of indices that satisfy `p`. -/
def receivedCount (p : Nat → Bool) (log : List Event) : Nat := log.countP (Event.isReceiptIn p)

@[simp] theorem spawnedCount_append (p : Nat → Bool) (l l' : List Event) :
    spawnedCount p (l ++ l') = spawnedCount p l + spawnedCount p l' := List.countP_append ..

@[simp] theorem receivedCount_append (p : Nat → Bool) (l l' : List Event) :
    receivedCount p (l ++ l') = receivedCount p l + receivedCount p l' := List.countP_append ..

@[simp] theorem spawnedCount_nil (p : Nat → Bool) : spawnedCount p [] = 0 := rfl
@[simp] theorem receivedCount_nil (p : Nat → Bool) : receivedCount p [] = 0 := rfl

@[simp] theorem spawnedCount_spawned (p : Nat → Bool) (j : Nat) :
    spawnedCount p [.spawned j] = if p j then 1 else 0 := by
  cases h : p j <;> simp [spawnedCount, Event.isSpawnIn, h]

@[simp] theorem receivedCount_spawned (p : Nat → Bool) (j : Nat) :
    receivedCount p [.spawned j] = 0 := rfl

@[simp] theorem spawnedCount_received (p : Nat → Bool) (j : Nat) (e : Option TunnelErr)
    (site : RecvSite) : spawnedCount p [.received j e site] = 0 := rfl

@[simp] theorem receivedCount_received (p : Nat → Bool) (j : Nat) (e : Option TunnelErr)
    (site : RecvSite) : receivedCount p [.received j e site] = if p j then 1 else 0 := by
  cases h : p j <;> simp [receivedCount, Event.isReceiptIn, h]

/-- Events other than spawns and receipts count for neither. -/
theorem spawnedCount_of_quiet {es : List Event} (h : ∀ e ∈ es, e.isControl = false)
    (p : Nat → Bool) : spawnedCount p es = 0 :=
  List.countP_eq_zero.2 fun e he => by simp [Event.isSpawnIn_eq_false (h e he)]

theorem receivedCount_of_quiet {es : List Event} (h : ∀ e ∈ es, e.isControl = false)
    (p : Nat → Bool) : receivedCount p es = 0 :=
  List.countP_eq_zero.2 fun e he => by simp [Event.isReceiptIn_eq_false (h e he)]

end Cloudflared.Supervisor
