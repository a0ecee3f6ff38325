import Cloudflared.Supervisor.Accounting
import Cloudflared.Supervisor.Connecting

/-!
# Where a connected signal comes from

A serving task gets a connected signal when it starts: `Run`'s `connectedSignal` for the first
tunnel, a fresh channel from `newConnectedTunnelSignal(index)` for every other. When its session
registers, `connectedFuse.Connected()` latches the fuse, and the goroutine `Serve` started on the
fuse notifies the signal. `initialize` waits on `connectedSignal` before it starts the siblings,
and the event loop waits on `nextConnectedSignal`, the channel `tunnelsConnecting` lists for
`nextConnectedIndex`.

No signal is notified for an index none of whose sessions registered (`Sys.SignalBooks`): every
channel is made once, from the counter `nextChan`, and belongs to the index it was made for; a
task holds a signal of its own index; and only the fuse of a task notifies, and only the signal
the task holds. So `initialize` starts a sibling only after a session of index `0` registered
(`siblings_after_first_registered`), and the event loop's `nextConnectedSignal` case is ready
only after a session of `nextConnectedIndex` registered (`loopConnected_registered`). Neither
holds by a check of the code; both follow from how the channels are made and handed out.

## Main definitions

* `Signal.Below`, `Signal.HeldBy`, `Sys.holders`, `Sys.notified`, `Sys.SignalBooks`.

## Main results

* `signalBooks_of_reachable`, `siblings_after_first_registered`, `loopConnected_registered`.
-/

namespace Cloudflared.Supervisor

/-- The signal is `Run`'s `connectedSignal`, or a channel made before the counter reached `n`. -/
def Signal.Below (n : Nat) : Signal → Prop
  | .run => True
  | .chan c => c < n

/-- The signal belongs to index `i`: `connectedSignal` to index `0`, a channel to the index that
`tunnelsConnecting` lists it with. -/
def Signal.HeldBy (connecting : List (Nat × Nat)) (i : Nat) : Signal → Prop
  | .run => i = 0
  | .chan c => (i, c) ∈ connecting

theorem Signal.Below.mono {sig : Signal} {n m : Nat} (h : sig.Below n) (hnm : n ≤ m) :
    sig.Below m := by
  cases sig with
  | run => trivial
  | chan c => exact Nat.lt_of_lt_of_le h hnm

theorem Signal.HeldBy.mono {sig : Signal} {c c' : List (Nat × Nat)} {i : Nat}
    (h : sig.HeldBy c i) (hc : c ⊆ c') : sig.HeldBy c' i := by
  cases sig with
  | run => exact h
  | chan _ => exact hc h

namespace Sys

/-- The index and the connected signal of each live task. -/
def holders (s : Sys) : List (Nat × Signal) := s.tasks.map fun t => (t.index, t.signal)

/-- The signals notified or about to be: closed, or held by a fuse goroutine that is about to
call `Notify`. -/
def notified (s : Sys) : List Signal := s.pendingNotify ++ s.closedSignals

/-- The provenance of the connected signals. -/
structure SignalBooks (s : Sys) : Prop where
  holders_below : ∀ h ∈ s.holders, h.2.Below s.nextChan
  connecting_below : ∀ p ∈ s.tunnelsConnecting, p.2 < s.nextChan
  notified_below : ∀ sig ∈ s.notified, sig.Below s.nextChan
  /-- A live task's signal belongs to the task's index and to no other. -/
  holders_index : ∀ h ∈ s.holders, ∀ i, h.2.HeldBy s.tunnelsConnecting i → h.1 = i
  /-- A notified signal belongs only to indices some session of which registered. -/
  registered : ∀ sig ∈ s.notified, ∀ i, sig.HeldBy s.tunnelsConnecting i →
    ∃ p, Event.connected i p ∈ s.log
  /-- The sibling loop runs only once `connectedSignal` is closed. -/
  siblings : ∀ i, s.pc = .siblings i → Signal.run ∈ s.closedSignals

/-- A step that drops tasks, entries of `tunnelsConnecting` or notifications, extends the log,
keeps the counter and closes no signal away keeps the books. -/
theorem SignalBooks.of_frame {s s' : Sys} (hs : s.SignalBooks) (hh : s'.holders ⊆ s.holders)
    (hc : s'.tunnelsConnecting ⊆ s.tunnelsConnecting) (hn : s'.nextChan = s.nextChan)
    (hnot : s'.notified ⊆ s.notified) (hcl : s.closedSignals ⊆ s'.closedSignals)
    (hl : s.log ⊆ s'.log) (hpc : ∀ i, s'.pc = .siblings i → Signal.run ∈ s.closedSignals) :
    s'.SignalBooks where
  holders_below h hm := hn ▸ hs.holders_below h (hh hm)
  connecting_below p hm := hn ▸ hs.connecting_below p (hc hm)
  notified_below sig hm := hn ▸ hs.notified_below sig (hnot hm)
  holders_index h hm i hi := hs.holders_index h (hh hm) i (hi.mono hc)
  registered sig hm i hi := (hs.registered sig (hnot hm) i (hi.mono hc)).imp fun _ hp => hl hp
  siblings i hi := hcl (hpc i hi)

/-- The same, when the step changes none of the fields the books read but `pc`. -/
theorem SignalBooks.of_same {s s' : Sys} (hs : s.SignalBooks) (ht : s'.tasks = s.tasks)
    (hc : s'.tunnelsConnecting = s.tunnelsConnecting) (hn : s'.nextChan = s.nextChan)
    (hp : s'.pendingNotify = s.pendingNotify) (hcl : s'.closedSignals = s.closedSignals)
    (hl : s'.log = s.log) (hpc : ∀ i, s'.pc = .siblings i → Signal.run ∈ s.closedSignals) :
    s'.SignalBooks :=
  hs.of_frame (by rw [holders, holders, ht]; exact List.Subset.refl _)
    (by rw [hc]; exact List.Subset.refl _) hn
    (by rw [notified, notified, hp, hcl]; exact List.Subset.refl _)
    (by rw [hcl]; exact List.Subset.refl _) (by rw [hl]; exact List.Subset.refl _) hpc

/-! ### Making and handing out channels -/

/-- A signal made before the counter is not the fresh channel, so it belongs to the indices it
belonged to. -/
theorem heldBy_of_newConnectedTunnelSignal {s : Sys} {sig : Signal} (hb : sig.Below s.nextChan)
    {idx i : Nat} (h : sig.HeldBy (s.newConnectedTunnelSignal idx).1.tunnelsConnecting i) :
    sig.HeldBy s.tunnelsConnecting i := by
  cases sig with
  | run => exact h
  | chan c =>
    rcases List.mem_cons.1 h with he | he
    · exact absurd (Prod.ext_iff.1 he).2 (Nat.ne_of_lt hb)
    · exact List.mem_of_mem_filter he

theorem SignalBooks.newConnectedTunnelSignal {s : Sys} (hs : s.SignalBooks) (idx : Nat) :
    (s.newConnectedTunnelSignal idx).1.SignalBooks where
  holders_below h hm := (hs.holders_below h hm).mono (Nat.le_succ _)
  connecting_below p hm := by
    rcases List.mem_cons.1 hm with rfl | hm
    · exact Nat.lt_succ_self _
    · exact Nat.lt_succ_of_lt (hs.connecting_below p (List.mem_of_mem_filter hm))
  notified_below sig hm := (hs.notified_below sig hm).mono (Nat.le_succ _)
  holders_index h hm i hi :=
    hs.holders_index h hm i (heldBy_of_newConnectedTunnelSignal (hs.holders_below h hm) hi)
  registered sig hm i hi :=
    hs.registered sig hm i (heldBy_of_newConnectedTunnelSignal (hs.notified_below sig hm) hi)
  siblings := hs.siblings

/-- A new task whose signal was made before the counter and belongs to its own index. -/
theorem SignalBooks.spawn {s : Sys} (hs : s.SignalBooks) {t : Task}
    (hb : t.signal.Below s.nextChan) (hi : ∀ i, t.signal.HeldBy s.tunnelsConnecting i → t.index = i) :
    (s.spawn t).SignalBooks := by
  have hh : (s.spawn t).holders = s.holders ++ [(t.index, t.signal)] := List.map_append ..
  refine ⟨?_, hs.connecting_below, hs.notified_below, ?_,
    fun sig hm i h => (hs.registered sig hm i h).imp fun _ hp => List.mem_append_left _ hp,
    hs.siblings⟩
  · simp only [hh, List.mem_append, List.mem_singleton]
    rintro h (hm | rfl)
    exacts [hs.holders_below h hm, hb]
  · simp only [hh, List.mem_append, List.mem_singleton]
    rintro h (hm | rfl)
    exacts [hs.holders_index h hm, hi]

/-- `initialize` starts the first tunnel with `connectedSignal`, which belongs to index `0`. -/
theorem SignalBooks.spawnFirst {s : Sys} (hs : s.SignalBooks) :
    (s.spawn ⟨0, true, .run, .call⟩).SignalBooks :=
  hs.spawn trivial fun _ hi => hi.symm

/-- `startTunnel(index)` hands the fresh channel, which belongs to `index` only, to the task of
`index`. -/
theorem SignalBooks.startTunnel {s : Sys} (hs : s.SignalBooks) (i : Nat) :
    (s.startTunnel i).SignalBooks :=
  (hs.newConnectedTunnelSignal i).spawn (Nat.lt_succ_self _) fun j hj => by
    rcases List.mem_cons.1 hj with he | he
    · exact ((Prod.ext_iff.1 he).1).symm
    · exact absurd (hs.connecting_below _ (List.mem_of_mem_filter he)) (Nat.lt_irrefl _)

theorem SignalBooks.respawnWaiting {s : Sys} (hs : s.SignalBooks) :
    ∀ is : List Nat, (s.respawnWaiting is).SignalBooks
  | [] => hs
  | i :: is => (hs.startTunnel i).respawnWaiting is

theorem SignalBooks.waitForNextTunnel {s : Sys} (hs : s.SignalBooks) (j pick : Nat) :
    (s.waitForNextTunnel j pick).1.SignalBooks :=
  hs.of_frame (List.Subset.refl _) (List.filter_subset' _) rfl (List.Subset.refl _)
    (List.Subset.refl _) (List.Subset.refl _) hs.siblings

theorem SignalBooks.receive {s : Sys} (hs : s.SignalBooks) {n : Nat} {site : RecvSite}
    {r : Sys × Nat × Option TunnelErr} (hr : s.receive n site = some r) : r.1.SignalBooks := by
  obtain ⟨t, -, -, -, h1⟩ := receive_eq_some hr
  rw [h1]
  exact hs.of_frame ((List.eraseIdx_sublist _ _).map _).subset (List.Subset.refl _) rfl
    (List.Subset.refl _) (List.Subset.refl _) (List.subset_append_left _ _) hs.siblings

/-! ### The steps of `Run` -/

theorem SignalBooks.logEvent {s : Sys} (hs : s.SignalBooks) (e : Event) :
    (s.logEvent e).SignalBooks :=
  hs.of_frame (List.Subset.refl _) (List.Subset.refl _) rfl (List.Subset.refl _)
    (List.Subset.refl _) (List.subset_append_left _ _) hs.siblings

theorem holders_setPhase_subset {s : Sys} {n : Nat} {t : Task} (ht : s.tasks[n]? = some t)
    (ph : Phase) : (s.setPhase n t ph).holders ⊆ s.holders := by
  have h : (s.setPhase n t ph).holders = s.holders := map_set_of_getElem? ht rfl
  rw [h]
  exact List.Subset.refl _

theorem SignalBooks.setPhase {s : Sys} (hs : s.SignalBooks) {n : Nat} {t : Task}
    (ht : s.tasks[n]? = some t) (ph : Phase) : (s.setPhase n t ph).SignalBooks :=
  hs.of_frame (holders_setPhase_subset ht ph) (List.Subset.refl _) rfl (List.Subset.refl _)
    (List.Subset.refl _) (List.Subset.refl _) hs.siblings

theorem SignalBooks.setFallback {s : Sys} (hs : s.SignalBooks) (i : Nat) (pf : ProtocolFallback) :
    (s.setFallback i pf).SignalBooks :=
  hs.of_same rfl rfl rfl rfl rfl rfl hs.siblings

theorem SignalBooks.returnServe {s : Sys} (hs : s.SignalBooks) {n : Nat} {t : Task}
    (ht : s.tasks[n]? = some t) (err : Option TunnelErr) (x : ServeExit) :
    (s.returnServe n t err x).SignalBooks :=
  (hs.setPhase ht _).logEvent _

/-- The fuse of a live task latches: its goroutine is about to notify the task's signal, and the
log records the registration of the task's index. -/
theorem SignalBooks.connect {s : Sys} (hs : s.SignalBooks) {t : Task} (ht : t ∈ s.tasks)
    (proto : Protocol) :
    { s with pendingNotify := s.pendingNotify ++ [t.signal],
             log := s.log ++ [Event.connected t.index proto] }.SignalBooks := by
  have hmem : ∀ sig, sig ∈ (s.pendingNotify ++ [t.signal]) ++ s.closedSignals →
      sig ∈ s.notified ∨ sig = t.signal := by
    simp only [notified, List.mem_append, List.mem_singleton]
    tauto
  have ht' : (t.index, t.signal) ∈ s.holders := List.mem_map_of_mem _ ht
  refine ⟨hs.holders_below, hs.connecting_below, fun sig hm => ?_, hs.holders_index,
    fun sig hm i hi => ?_, hs.siblings⟩
  · rcases hmem sig hm with hm | rfl
    exacts [hs.notified_below sig hm, hs.holders_below _ ht']
  · rcases hmem sig hm with hm | rfl
    · exact (hs.registered sig hm i hi).imp fun _ hp => List.mem_append_left _ hp
    · exact ⟨proto, by simp [← hs.holders_index _ ht' i hi]⟩

theorem SignalBooks.of_taskStep {cfg : Config} {s s' : Sys} {n : Nat} {l : TaskLabel}
    (hs : s.SignalBooks) (h : s.taskStep cfg n l = some s') : s'.SignalBooks := by
  unfold taskStep at h
  split at h
  · cases h
  rename_i t ht
  split at h <;> try dsimp only at h
  · split at h <;> cases h
    · exact (hs.logEvent _).returnServe (by exact ht) _ _
    · exact ((hs.logEvent _).setPhase (by exact ht) _).logEvent _
  · cases h
    exact (hs.connect (List.getElem?_mem ht) _).of_frame
      (holders_setPhase_subset ht (.session _ true)) (List.Subset.refl _) rfl (List.Subset.refl _) (List.Subset.refl _) (List.Subset.refl _)
      hs.siblings
  · rename_i proto _ a _ _
    have hh : { s with edgeAddrHandler := (s.edgeAddrHandler.shouldGetNewAddress t.connIndex
        (serveTunnel proto a).1).2 }.SignalBooks :=
      hs.of_same rfl rfl rfl rfl rfl rfl hs.siblings
    split_ifs at h <;> cases h
    · exact hh.returnServe (by exact ht) _ _
    · exact hh.setPhase (by exact ht) _
    · exact hh.returnServe (by exact ht) _ _
  · split at h <;> cases h
    exact hs.returnServe ht _ _
  · split at h <;> cases h
    exact hs.returnServe ht _ _
  · split at h <;> cases h
    · exact ((hs.logEvent _).setFallback _ _).returnServe (by exact ht) _ _
    · exact (hs.logEvent _).returnServe (by exact ht) _ _
  · split at h <;> cases h
    · exact (hs.setPhase ht _).logEvent _
    · exact hs.setPhase ht _
  · cases h

theorem SignalBooks.of_envStep {s s' : Sys} {l : EnvLabel} (hs : s.SignalBooks)
    (h : s.envStep l = some s') : s'.SignalBooks := by
  cases l with
  | cancel _ | closeShutdown =>
    dsimp only [envStep] at h
    split at h <;> cases h
    exact hs.of_same rfl rfl rfl rfl rfl rfl hs.siblings
  | notify n =>
    dsimp only [envStep] at h
    split at h <;> cases h
    rename_i sig hsig
    refine hs.of_frame (List.Subset.refl _) (List.Subset.refl _) rfl ?_
      (List.subset_append_left _ _) (List.Subset.refl _) hs.siblings
    intro x hx
    simp only [notified, List.mem_append, List.mem_singleton] at hx ⊢
    rcases hx with hx | hx | rfl
    · exact .inl (List.mem_of_mem_eraseIdx hx)
    · exact .inr hx
    · exact .inl (List.getElem?_mem hsig)

theorem SignalBooks.of_supStep {cfg : Config} {s s' : Sys} {l : SupLabel} (hs : s.SignalBooks)
    (h : s.supStep cfg l = some s') : s'.SignalBooks := by
  cases l with
  | initStart =>
    simp only [supStep, Option.ite_none_right_eq_some, Option.some.injEq] at h
    obtain ⟨-, rfl⟩ := h
    refine SignalBooks.spawnFirst ?_
    exact hs.of_same rfl rfl rfl rfl rfl rfl fun _ h => nomatch h
  | initConnected =>
    simp only [supStep, Option.ite_none_right_eq_some, Option.some.injEq] at h
    obtain ⟨⟨-, hrun⟩, rfl⟩ := h
    exact hs.of_same rfl rfl rfl rfl rfl rfl fun _ _ => hrun
  | initCanceled | initShutdown | loopCanceled | drainDone =>
    simp only [supStep, Option.ite_none_right_eq_some, Option.some.injEq] at h
    obtain ⟨-, rfl⟩ := h
    exact hs.of_same rfl rfl rfl rfl rfl rfl fun _ h => nomatch h
  | loopShutdown =>
    simp only [supStep, Option.ite_none_right_eq_some, Option.some.injEq] at h
    obtain ⟨-, rfl⟩ := h
    exact hs.of_same rfl rfl rfl rfl rfl rfl hs.siblings
  | initDrain n =>
    obtain ⟨-, e, r, -, hr, rfl⟩ := supStep_initDrain h
    exact (hs.receive hr).of_same rfl rfl rfl rfl rfl rfl fun _ h => nomatch h
  | drainReceive n =>
    simp only [supStep, Option.ite_none_right_eq_some, Option.map_eq_some'] at h
    obtain ⟨-, r, hr, rfl⟩ := h
    exact (hs.receive hr).of_same rfl rfl rfl rfl rfl rfl (hs.receive hr).siblings
  | initReceive n =>
    simp only [supStep, Option.ite_none_right_eq_some, Option.map_eq_some'] at h
    obtain ⟨-, r, hr, rfl⟩ := h
    split <;> exact (hs.receive hr).of_same rfl rfl rfl rfl rfl rfl fun _ h => nomatch h
  | spawnSibling =>
    obtain ⟨i, hpc, -, rfl⟩ := supStep_spawnSibling h
    have h₁ := (hs.setFallback i (.seed (s.tunnelsProtocolFallback 0).protocol)).startTunnel i
    exact h₁.of_same rfl rfl rfl rfl rfl rfl fun _ _ => hs.siblings i hpc
  | startLoop =>
    obtain ⟨i, -, -, rfl⟩ := supStep_startLoop h
    exact hs.of_same rfl rfl rfl rfl rfl rfl fun _ h => nomatch h
  | loopReceive n pick =>
    simp only [supStep, Option.ite_none_right_eq_some, Option.map_eq_some'] at h
    obtain ⟨hpc, r, hr, rfl⟩ := h
    have h₁ : { r.1 with tunnelsActive := r.1.tunnelsActive - 1 }.SignalBooks :=
      (hs.receive hr).of_same rfl rfl rfl rfl rfl rfl (hs.receive hr).siblings
    rcases handleTunnelError_cases r.1 r.2.1 r.2.2 _ pick with ⟨h, -⟩ | h | h | ⟨h, -⟩ <;>
      rw [h]
    · exact (h₁.startTunnel r.2.1).of_same rfl rfl rfl rfl rfl rfl (h₁.startTunnel r.2.1).siblings
    · exact (h₁.waitForNextTunnel r.2.1 pick).of_same rfl rfl rfl rfl rfl rfl
        (h₁.waitForNextTunnel r.2.1 pick).siblings
    · exact h₁
    · exact h₁.of_same rfl rfl rfl rfl rfl rfl fun _ h => nomatch h
  | loopTimer =>
    simp only [supStep, Option.ite_none_right_eq_some, Option.some.injEq] at h
    obtain ⟨-, rfl⟩ := h
    have h₁ := ((hs.of_same rfl rfl rfl rfl rfl rfl hs.siblings :
      { s with backoffTimer := false }.SignalBooks).logEvent
        (.timerFired s.tunnelsWaiting)).respawnWaiting s.tunnelsWaiting
    exact h₁.of_same rfl rfl rfl rfl rfl rfl h₁.siblings
  | loopConnected pick =>
    obtain ⟨-, -, rfl⟩ := supStep_loopConnected h
    exact hs.waitForNextTunnel _ _

theorem SignalBooks.of_step {cfg : Config} {s s' : Sys} {l : Label} (hs : s.SignalBooks)
    (h : step cfg s l = some s') : s'.SignalBooks := by
  cases l with
  | env l => exact hs.of_envStep h
  | sup l => exact hs.of_supStep h
  | task n l => exact hs.of_taskStep h

end Sys

theorem signalBooks_of_reachable {cfg : Config} {s : Sys} (hs : Reachable cfg s) :
    s.SignalBooks := by
  induction hs with
  | init =>
    exact ⟨nofun, nofun, nofun, nofun, nofun, fun _ h => nomatch h⟩
  | step l _ h ih => exact ih.of_step h

/-- `initialize` runs its sibling loop only after a session of index `0` registered: the loop
starts on `connectedSignal.Wait()`, and only the first tunnel's fuse notifies that signal. -/
theorem siblings_after_first_registered {cfg : Config} {s : Sys} (hs : Reachable cfg s)
    {i : Nat} (hpc : s.pc = .siblings i) : ∃ p, Event.connected 0 p ∈ s.log :=
  have hb := signalBooks_of_reachable hs
  hb.registered .run (List.mem_append_right _ (hb.siblings i hpc)) 0 rfl

/-- The state of `bringUpTwo` when `initialize` is about to start index `1`. -/
def firstConnected : Sys :=
  (run twoTunnels (Sys.init twoTunnels) (bringUpTwo.take 5)).getD (Sys.init twoTunnels)

theorem firstConnected_reachable : Reachable twoTunnels firstConnected :=
  reachable_of_run
    (show run twoTunnels (Sys.init twoTunnels) (bringUpTwo.take 5) = some firstConnected from rfl)

theorem siblings_after_first_registered_firstConnected :
    firstConnected.pc = .siblings 1 ∧ ∃ p, Event.connected 0 p ∈ firstConnected.log :=
  ⟨rfl, siblings_after_first_registered firstConnected_reachable rfl⟩

/-- When the channel the event loop waits on as `nextConnectedSignal` is closed, a session of
`nextConnectedIndex` registered: the case hands `waitForNextTunnel` an index whose tunnel
connected. -/
theorem loopConnected_registered {cfg : Config} {s : Sys} (hs : Reachable cfg s) {ch : Nat}
    (hch : s.nextConnectedSignal = some ch) (hcl : Signal.chan ch ∈ s.closedSignals) :
    ∃ p, Event.connected s.nextConnectedIndex p ∈ s.log :=
  (signalBooks_of_reachable hs).registered _ (List.mem_append_right _ hcl) _
    (nextConnected_mem hs hch)

/-- After `bringUpTwo`, index `1` registers and its fuse notifies its channel. -/
def secondConnected : Sys :=
  (run twoTunnels (Sys.init twoTunnels)
    (bringUpTwo ++ [.task 1 (.serve none), .task 1 .connect, .env (.notify 0)])).getD
    (Sys.init twoTunnels)

theorem secondConnected_reachable : Reachable twoTunnels secondConnected :=
  reachable_of_run (show run twoTunnels (Sys.init twoTunnels)
    (bringUpTwo ++ [.task 1 (.serve none), .task 1 .connect, .env (.notify 0)]) =
      some secondConnected from rfl)

theorem loopConnected_registered_secondConnected :
    secondConnected.nextConnectedSignal = some 0 ∧ Signal.chan 0 ∈ secondConnected.closedSignals ∧
      ∃ p, Event.connected secondConnected.nextConnectedIndex p ∈ secondConnected.log :=
  ⟨rfl, by decide, loopConnected_registered secondConnected_reachable rfl (by decide)⟩

end Cloudflared.Supervisor
