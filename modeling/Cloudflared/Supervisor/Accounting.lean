import Cloudflared.Supervisor.Frame

/-!
# The books of the control loop

The control loop keeps no list of its tasks: it counts them in `tunnelsActive`, and it keeps the
indices whose task ended and that wait for the backoff timer in `tunnelsWaiting`. This module
proves what holds of the tasks themselves in every reachable state, whatever the interleaving of
the goroutines and whatever the collaborators answer (`Sys.Accounting`):

* for every set of indices, the tasks spawned for it are those whose `tunnelError` was received
  and those still live (`Counts`);
* no index is live twice, or live and waiting, or waiting twice;
* some index waits exactly when the backoff timer is armed, given that `BackoffTimer` always
  returns a channel, as it does for a backoff made with `retryForever`;
* during `initialize`, the live indices are none, then `0`, then `0, …, i - 1`.

From these, every index is at each instant live once, waiting once, or neither, and an index is
spawned again only after the receipt of its previous task's error (`index_exclusive`).

## Main definitions

* `Counts`, `Books`, `SupPc.Tracks`, `Sys.Accounting`.

## Main results

* `accounting_of_reachable`, `index_exclusive`.
-/

namespace Cloudflared.Supervisor

/-! ### Counting spawns and receipts -/

/-- The spawns and receipts of `log` account for the live indices `is`: for every set of indices,
the spawns are the receipts and the live tasks. -/
def Counts (is : List Nat) (log : List Event) : Prop :=
  ∀ p : Nat → Bool, spawnedCount p log = receivedCount p log + is.countP p

namespace Counts

variable {is : List Nat} {log : List Event}

theorem spawn (h : Counts is log) (j : Nat) : Counts (is ++ [j]) (log ++ [.spawned j]) := by
  intro p
  have := h p
  cases hp : p j <;> simp [List.countP_append, hp] <;> omega

theorem receive (h : Counts is log) {j : Nat} {is' : List Nat} (hp : is.Perm (j :: is'))
    (e : Option TunnelErr) (site : RecvSite) : Counts is' (log ++ [.received j e site]) := by
  intro p
  have := (hp.countP_eq p) ▸ h p
  cases hq : p j <;> simp_all [List.countP_cons]
  omega

theorem quiet (h : Counts is log) {log' : List Event} (hl : QuietExt log log') : Counts is log' :=
  fun p => by rw [hl.spawnedCount, hl.receivedCount]; exact h p

theorem respawn (h : Counts is log) (js : List Nat) :
    Counts (is ++ js) (log ++ js.map Event.spawned) := by
  induction js generalizing is log with
  | nil => simpa using h
  | cons j js ih => simpa using ih (h.spawn j)

end Counts

/-! ### The books: counts, exclusivity and the timer -/

/-- What the control loop's variables say about the live indices `is`, given the log, the waiting
indices `w` and whether the backoff timer is `armed`. -/
structure Books (is : List Nat) (log : List Event) (w : List Nat) (armed : Bool) : Prop where
  counts : Counts is log
  nodup : (is ++ w).Nodup
  armed : w ≠ [] ↔ armed = true

namespace Books

variable {is : List Nat} {log : List Event} {w : List Nat} {armed : Bool}

theorem quiet (h : Books is log w armed) {log' : List Event} (hl : QuietExt log log') :
    Books is log' w armed :=
  ⟨h.counts.quiet hl, h.nodup, h.armed⟩

theorem spawn (h : Books is log w armed) {j : Nat} (hj : j ∉ is ++ w) :
    Books (is ++ [j]) (log ++ [.spawned j]) w armed := by
  refine ⟨h.counts.spawn j, ?_, h.armed⟩
  rw [List.append_assoc, List.singleton_append, List.nodup_middle]
  exact h.nodup.cons hj

/-- A receipt takes `j` out of the live indices; `j` is then neither live nor waiting. -/
theorem receive (h : Books is log w armed) {j : Nat} {is' : List Nat} (hp : is.Perm (j :: is'))
    (e : Option TunnelErr) (site : RecvSite) :
    Books is' (log ++ [.received j e site]) w armed ∧ j ∉ is' ++ w := by
  have hnd : (j :: (is' ++ w)).Nodup := ((hp.append_right w).nodup_iff).1 h.nodup
  exact ⟨⟨h.counts.receive hp e site, hnd.of_cons, h.armed⟩, (List.nodup_cons.1 hnd).1⟩

theorem wait (h : Books is log w armed) {j : Nat} (hj : j ∉ is ++ w) :
    Books is log (w ++ [j]) true := by
  refine ⟨h.counts, ?_, by simp⟩
  rw [← List.append_assoc, List.nodup_append]
  exact ⟨h.nodup, List.nodup_singleton j, by simpa using hj⟩

theorem disarm (h : Books is log w armed) : Books is log [] false :=
  ⟨h.counts, by simpa using h.nodup.sublist (List.sublist_append_left is w), by simp⟩

theorem fire (h : Books is log w armed) (e : Event) (he : e.isControl = false) :
    Books (is ++ w) (log ++ [e] ++ w.map Event.spawned) [] false :=
  ⟨(h.counts.quiet (.snoc log he)).respawn w, by simpa using h.nodup, by simp⟩

end Books

/-! ### The invariant -/

/-- What the phases of `initialize` say about the live and the waiting indices: none before it
starts, index `0` while it waits on the first tunnel, `0, …, i - 1` while it starts the siblings,
and no index waits. -/
def SupPc.Tracks : SupPc → List Nat → List Nat → Prop
  | .start, is, w => is = [] ∧ w = []
  | .initWait, is, w | .initDrain, is, w => is = [0] ∧ w = []
  | .siblings i, is, w => is = List.range i ∧ w = []
  | _, _, _ => True

namespace Sys

@[simp] theorem indices_spawn (s : Sys) (t : Task) : (s.spawn t).indices = s.indices ++ [t.index] :=
  List.map_append ..

@[simp] theorem indices_startTunnel (s : Sys) (i : Nat) :
    (s.startTunnel i).indices = s.indices ++ [i] :=
  List.map_append ..

/-- The books of the control loop, in a state. -/
structure Accounting (s : Sys) : Prop where
  books : Books s.indices s.log s.tunnelsWaiting s.backoffTimer
  tracks : s.pc.Tracks s.indices s.tunnelsWaiting

theorem accounting_init (cfg : Config) : (Sys.init cfg).Accounting :=
  ⟨⟨fun _ => rfl, List.nodup_nil, by simp [Sys.init]⟩, ⟨rfl, rfl⟩⟩

theorem Accounting.sameControl {s s' : Sys} (hs : s.Accounting) (h : SameControl s s') :
    s'.Accounting := by
  refine ⟨?_, ?_⟩
  · rw [h.indices, h.tunnelsWaiting, h.backoffTimer]
    exact hs.books.quiet h.log
  · rw [h.pc, h.indices, h.tunnelsWaiting]
    exact hs.tracks

/-- A receive keeps the books, with the received index neither live nor waiting after it. -/
theorem Accounting.receive {s : Sys} (hs : s.Accounting) {n : Nat} {site : RecvSite}
    {r : Sys × Nat × Option TunnelErr} (h : s.receive n site = some r) :
    Books r.1.indices r.1.log r.1.tunnelsWaiting r.1.backoffTimer ∧
      r.2.1 ∉ r.1.indices ++ r.1.tunnelsWaiting ∧ r.1.pc = s.pc := by
  obtain ⟨t, ht, -, hi, h1⟩ := receive_eq_some h
  rw [h1, hi]
  exact ⟨(hs.books.receive (map_eraseIdx_perm ht) _ _).1,
    (hs.books.receive (map_eraseIdx_perm ht) r.2.2 site).2, rfl⟩

theorem Accounting.of_supStep {cfg : Config} {s s' : Sys} {l : SupLabel} (hs : s.Accounting)
    (h : s.supStep cfg l = some s') : s'.Accounting := by
  have hb := hs.books
  cases l with
  | initStart c =>
    simp only [supStep, Option.ite_none_right_eq_some, Option.some.injEq] at h
    obtain ⟨hpc, rfl⟩ := h
    obtain ⟨hi, hw⟩ : s.indices = [] ∧ s.tunnelsWaiting = [] := by
      simpa [hpc, SupPc.Tracks] using hs.tracks
    refine ⟨?_, ?_⟩
    · rw [indices_spawn]
      exact hb.spawn (by simp [hi, hw])
    · rw [indices_spawn]
      exact ⟨by simp [Sys.indices] at hi ⊢; exact hi, hw⟩
  | initCanceled =>
    simp only [supStep, Option.ite_none_right_eq_some, Option.some.injEq] at h
    obtain ⟨⟨hpc, -⟩, rfl⟩ := h
    exact ⟨hb, by simpa [hpc, SupPc.Tracks] using hs.tracks⟩
  | initDrain n =>
    obtain ⟨-, e, r, -, hr, rfl⟩ := supStep_initDrain h
    exact ⟨(hs.receive hr).1, trivial⟩
  | initReceive n =>
    simp only [supStep, Option.ite_none_right_eq_some, Option.map_eq_some'] at h
    obtain ⟨-, r, hr, rfl⟩ := h
    split
    · exact ⟨(hs.receive hr).1, trivial⟩
    · exact ⟨(hs.receive hr).1.disarm, trivial⟩
  | initShutdown =>
    simp only [supStep, Option.ite_none_right_eq_some, Option.some.injEq] at h
    obtain ⟨-, rfl⟩ := h
    exact ⟨hb, trivial⟩
  | initConnected =>
    simp only [supStep, Option.ite_none_right_eq_some, Option.some.injEq] at h
    obtain ⟨⟨hpc, -⟩, rfl⟩ := h
    exact ⟨hb, by simpa [hpc, SupPc.Tracks] using hs.tracks⟩
  | spawnSibling =>
    obtain ⟨i, hpc, -, rfl⟩ := supStep_spawnSibling h
    obtain ⟨hi, hw⟩ : s.indices = List.range i ∧ s.tunnelsWaiting = [] := by
      simpa [hpc, SupPc.Tracks] using hs.tracks
    refine ⟨?_, ?_⟩
    · simpa [spawnSiblingAt, setFallback, Sys.indices] using
        hb.spawn (show i ∉ s.indices ++ s.tunnelsWaiting by simp [hi, hw])
    · simp only [spawnSiblingAt, setFallback, Sys.indices] at hi ⊢
      simpa [SupPc.Tracks, List.range_succ, hi] using hw
  | startLoop =>
    obtain ⟨i, -, -, rfl⟩ := supStep_startLoop h
    exact ⟨hb.disarm, trivial⟩
  | loopCanceled =>
    simp only [supStep, Option.ite_none_right_eq_some, Option.some.injEq] at h
    obtain ⟨-, rfl⟩ := h
    exact ⟨hb, trivial⟩
  | drainReceive n =>
    simp only [supStep, Option.ite_none_right_eq_some, Option.map_eq_some'] at h
    obtain ⟨⟨hpc, -⟩, r, hr, rfl⟩ := h
    exact ⟨(hs.receive hr).1, by simp [SupPc.Tracks, (hs.receive hr).2.2, hpc]⟩
  | drainDone =>
    simp only [supStep, Option.ite_none_right_eq_some, Option.some.injEq] at h
    obtain ⟨-, rfl⟩ := h
    exact ⟨hb, trivial⟩
  | loopReceive n pick =>
    simp only [supStep, Option.ite_none_right_eq_some, Option.map_eq_some'] at h
    obtain ⟨hpc, r, hr, rfl⟩ := h
    obtain ⟨hb', hj, -⟩ := hs.receive hr
    refine ⟨?_, ?_⟩
    · rcases handleTunnelError_cases r.1 r.2.1 r.2.2 _ pick with ⟨h, -⟩ | h | h | ⟨h, -⟩ <;> rw [h]
      · simpa [Sys.indices] using hb'.spawn hj
      · exact hb'.wait hj
      · exact hb'
      · exact hb'
    · rcases handleTunnelError_cases r.1 r.2.1 r.2.2 _ pick with ⟨h, -⟩ | h | h | ⟨h, -⟩ <;>
        rw [h] <;> simp [SupPc.Tracks, (hs.receive hr).2.2, hpc]
  | loopTimer =>
    simp only [supStep, Option.ite_none_right_eq_some, Option.some.injEq] at h
    obtain ⟨⟨hpc, -⟩, rfl⟩ := h
    obtain ⟨ts, c, ni, nc, ns, hts, -, h⟩ := respawnWaiting_eq
      ({ s with backoffTimer := false }.logEvent (.timerFired s.tunnelsWaiting)) s.tunnelsWaiting
    simp only [fireBackoffTimer, h]
    exact ⟨by simpa [Sys.indices, logEvent, hts] using hb.fire (.timerFired s.tunnelsWaiting) rfl,
      by simp [SupPc.Tracks, logEvent, hpc]⟩
  | loopConnected pick =>
    obtain ⟨-, -, rfl⟩ := supStep_loopConnected h
    exact ⟨hb, hs.tracks⟩
  | loopShutdown =>
    simp only [supStep, Option.ite_none_right_eq_some, Option.some.injEq] at h
    obtain ⟨-, rfl⟩ := h
    exact ⟨hb, hs.tracks⟩

theorem Accounting.of_step {cfg : Config} {s s' : Sys} {l : Label} (hs : s.Accounting)
    (h : step cfg s l = some s') : s'.Accounting := by
  cases l with
  | env l => exact hs.sameControl (envStep_sameControl h)
  | sup l => exact hs.of_supStep h
  | task n l => exact hs.sameControl (taskStep_sameControl h)

end Sys

theorem accounting_of_reachable {cfg : Config} {s : Sys} (hs : Reachable cfg s) : s.Accounting := by
  induction hs with
  | init => exact Sys.accounting_init cfg
  | step l _ h ih => exact ih.of_step h

/-- In every reachable state, each connection index has one live task and does not wait, or
waits once and has no task, or neither; all its spawns but the live one have had their
`tunnelError` received; and some index waits exactly when the backoff timer is armed. -/
theorem index_exclusive {cfg : Config} {s : Sys} (hs : Reachable cfg s) (i : Nat) :
    s.liveCount i + s.tunnelsWaiting.count i ≤ 1 ∧
      spawnedCount (· == i) s.log = receivedCount (· == i) s.log + s.liveCount i ∧
      (s.tunnelsWaiting ≠ [] ↔ s.backoffTimer = true) := by
  have hb := (accounting_of_reachable hs).books
  refine ⟨?_, hb.counts _, hb.armed⟩
  have := List.nodup_iff_count_le_one.1 hb.nodup i
  rwa [List.count_append] at this

/-- Two connections over four edge addresses. -/
def twoTunnels : Config := ⟨2, 4, false, 5⟩

/-- `initialize` starts index `0`, which registers with QUIC, then index `1`, and `Run` enters its
event loop. -/
def bringUpTwo : List Label :=
  [.sup (.initStart .quic), .task 0 (.serve none), .task 0 .connect, .env (.notify 0),
    .sup .initConnected, .sup .spawnSibling, .sup .startLoop]

/-- After `bringUpTwo`, the dial of index `1` fails, its protocol backoff fires, and the event
loop queues it for the backoff timer. -/
def queueSecond : List Label :=
  bringUpTwo ++
    [.task 1 (.serve none),
      .task 1 (.sessionEnd ⟨some (.dial "dial tcp: i/o timeout"), .prefer, none, none⟩ none),
      .task 1 (.backoffFired ⟨.quic, some .http2⟩ false), .sup (.loopReceive 1 0)]

/-- The state `queueSecond` ends in. -/
def queuedSecond : Sys := (run twoTunnels (Sys.init twoTunnels) queueSecond).getD (Sys.init twoTunnels)

theorem queuedSecond_reachable : Reachable twoTunnels queuedSecond :=
  reachable_of_run (show run twoTunnels (Sys.init twoTunnels) queueSecond = some queuedSecond from rfl)

theorem index_exclusive_queuedSecond :
    queuedSecond.tunnelsWaiting = [1] ∧
      (queuedSecond.liveCount 1 + queuedSecond.tunnelsWaiting.count 1 ≤ 1 ∧
        spawnedCount (· == 1) queuedSecond.log =
          receivedCount (· == 1) queuedSecond.log + queuedSecond.liveCount 1 ∧
        (queuedSecond.tunnelsWaiting ≠ [] ↔ queuedSecond.backoffTimer = true)) :=
  ⟨rfl, index_exclusive queuedSecond_reachable 1⟩

end Cloudflared.Supervisor
