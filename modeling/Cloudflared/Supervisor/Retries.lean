import Cloudflared.Supervisor.Accounting

/-!
# Retries of a connection index

A `Serve` on an index that fails is followed, before the next `Serve` on the same index, by the
firing of a backoff timer: the protocol backoff inside the failing `Serve`, or the supervisor's
`backoffTimer` before the event loop respawns the index. The exception is a `Serve` that returns
before its backoff `select` because `GetAddr` or `GetDifferentAddr` failed: `startFirstTunnel`
then calls `Serve` again at once when the error allows it, with no timer in between
(`firstTunnel_retries_at_once`). This module proves that this is the only exception
(`serve_retries_paced`). The third way to return before the backoff, a refusal of
`GetMaxBackoffDuration`, happens only once `ctx` is done, and then `startFirstTunnel` returns.

The property is read off the log by a monitor per index (`Pace`): `idle`, `serving` (with
whether a timer fired since the call), `owed` (a failed `Serve` still waits for a timer; `early`
when an edge address could not be had, `inline` once `startFirstTunnel` continued its loop), or
`broken` when a `Serve` starts while a timer is owed and the exception does not apply.
`Sys.PaceInv` ties the monitor of each index to the phase of its live task, and every step keeps
it, so no reachable log breaks a monitor.

`serveTunnel` classifies an `unrecoverableError` as not recoverable, but that flag only decides
the protocol fallback: the event loop asks `GetMaxBackoffDuration` alone whether to respawn, and
respawns the index after the error (`unrecoverable_respawned`).

## Main definitions

* `failing`, `Event.firesTimerOf`, `Pace`, `Pace.run`, `Sys.PaceInv`.

## Main results

* `paceInv_of_reachable`, `serve_retries_paced`, `firstTunnel_retries_at_once`,
  `unrecoverable_respawned`.
-/

namespace Cloudflared.Supervisor

/-! ### The monitor of one index -/

/-- A `Serve` result that calls for a paced retry: a non-nil error other than a
`ReconnectSignal`. -/
def failing : Option TunnelErr → Bool
  | some e => !e.isReconnectSignal
  | none => false

/-- The event is a backoff timer firing for index `i`: `Serve`'s protocol backoff, or the
supervisor's `backoffTimer` with `i` waiting. -/
def Event.firesTimerOf (i : Nat) : Event → Bool
  | backoffFired j => j = i
  | timerFired is => i ∈ is
  | _ => false

/-- The monitor of one index. -/
inductive Pace where
  | idle
  | serving (paced : Bool)
  | owed (early inline : Bool)
  | broken
  deriving DecidableEq, Repr

namespace Pace

/-- A `Serve` starts. -/
def call : Pace → Pace
  | idle | owed true true => serving false
  | _ => broken

/-- A backoff timer fires. -/
def fire : Pace → Pace
  | serving _ => serving true
  | owed _ _ => idle
  | p => p

/-- `Serve` returns `err` from `x`. -/
def ret (err : Option TunnelErr) (x : ServeExit) : Pace → Pace
  | serving paced => if failing err && !paced then owed x.addrFailed false else idle
  | p => p

/-- `startFirstTunnel` continues its loop. -/
def inline : Pace → Pace
  | owed early _ => owed early true
  | p => p

/-- The monitor of index `i` reads one event. -/
def step (i : Nat) (p : Pace) : Event → Pace
  | .serveCalled j => if j = i then p.call else p
  | .backoffFired j => if j = i then p.fire else p
  | .timerFired is => if i ∈ is then p.fire else p
  | .serveReturned j err w => if j = i then p.ret err w else p
  | .retriedInline j => if j = i then p.inline else p
  | _ => p

/-- The monitor of index `i` after a log. -/
def run (i : Nat) (log : List Event) : Pace := log.foldl (step i) idle

/-- The monitor of `i` from `p` over the events `es`. -/
def runFrom (i : Nat) (p : Pace) (es : List Event) : Pace := es.foldl (step i) p

@[simp] theorem runFrom_nil (i : Nat) (p : Pace) : runFrom i p [] = p := rfl

@[simp] theorem runFrom_cons (i : Nat) (p : Pace) (e : Event) (es : List Event) :
    runFrom i p (e :: es) = runFrom i (step i p e) es := rfl

theorem runFrom_append (i : Nat) (p : Pace) (es es' : List Event) :
    runFrom i p (es ++ es') = runFrom i (runFrom i p es) es' := List.foldl_append ..

theorem run_append (i : Nat) (log es : List Event) : run i (log ++ es) = runFrom i (run i log) es :=
  List.foldl_append ..

@[simp] theorem step_broken (i : Nat) (e : Event) : step i broken e = broken := by
  cases e <;> simp [step, call, fire, ret, inline]

@[simp] theorem runFrom_broken (i : Nat) (es : List Event) : runFrom i broken es = broken := by
  induction es <;> simp [*]

@[simp] theorem step_serveCalled_self (i : Nat) (p : Pace) : step i p (.serveCalled i) = p.call :=
  if_pos rfl

@[simp] theorem step_backoffFired_self (i : Nat) (p : Pace) :
    step i p (.backoffFired i) = p.fire := if_pos rfl

@[simp] theorem step_serveReturned_self (i : Nat) (err : Option TunnelErr) (x : ServeExit)
    (p : Pace) : step i p (.serveReturned i err x) = p.ret err x := if_pos rfl

@[simp] theorem step_retriedInline_self (i : Nat) (p : Pace) :
    step i p (.retriedInline i) = p.inline := if_pos rfl

@[simp] theorem step_attempted (i j : Nat) (proto : Protocol) (p : Pace) :
    step i p (.attempted j proto) = p := rfl

@[simp] theorem step_connected (i j : Nat) (proto : Protocol) (p : Pace) :
    step i p (.connected j proto) = p := rfl

theorem step_spawned (i j : Nat) (p : Pace) : step i p (.spawned j) = p := rfl

theorem step_received (i j : Nat) (e : Option TunnelErr) (site : RecvSite) (p : Pace) :
    step i p (.received j e site) = p := rfl

theorem runFrom_spawned (i : Nat) (p : Pace) (js : List Nat) :
    runFrom i p (js.map Event.spawned) = p := by
  induction js generalizing p <;> simp [step_spawned, *]

end Pace

/-! ### The invariant -/

/-- The events a serving task of index `j` logs. -/
def Event.ofTask (j : Nat) : Event → Bool
  | serveCalled k | attempted k _ | serveReturned k _ _ | backoffFired k | retriedInline k
  | connected k _ => k = j
  | _ => false

/-- What the monitor of a live task's index is, in each phase of the task. -/
def Phase.PaceOK : Phase → Pace → Prop
  | .call, p => p = .idle ∨ p = .owed true true
  | .session _ _, p | .backoff _ _, p => ∃ b, p = .serving b
  | .returned err, p | .send err, p => p = .idle ∨ ∃ early, p = .owed early false ∧ failing err = true

theorem Phase.paceOK_returnServe (first : Bool) (err : Option TunnelErr) (p : Pace) :
    (if first then Phase.returned err else .send err).PaceOK p ↔
      p = .idle ∨ ∃ early, p = .owed early false ∧ failing err = true := by
  cases first <;> rfl

namespace Pace

/-- The monitor of an index ignores the events of another index's task. -/
theorem runFrom_of_ofTask {i j : Nat} (hij : i ≠ j) {es : List Event}
    (hes : ∀ e ∈ es, e.ofTask j = true) (p : Pace) : runFrom i p es = p := by
  induction es generalizing p with
  | nil => rfl
  | cons e es ih =>
    have he := hes e (List.mem_cons_self _ _)
    have hstep : step i p e = p := by
      cases e <;> simp only [Event.ofTask, decide_eq_true_eq, Bool.false_eq_true] at he <;>
        simp [step, he, Ne.symm hij]
    rw [runFrom_cons, hstep, ih fun e h => hes e (List.mem_cons_of_mem _ h)]

/-- `Serve` returns from its session or its backoff. A timer owed after a return other than an
address failure is owed only if none fired during the call, and `hx` says that `ctx` is done
then. -/
theorem ret_serving_ok (first : Bool) (err : Option TunnelErr) (x : ServeExit) (b ctx : Bool)
    (hx : x.addrFailed = false → b = false → failing err = true → ctx = true) :
    (serving b).ret err x ≠ broken ∧
      (if first then Phase.returned err else .send err).PaceOK ((serving b).ret err x) ∧
      ∀ inl, (serving b).ret err x = owed false inl → ctx = true := by
  rw [Phase.paceOK_returnServe]
  cases hf : failing err <;> cases b <;> cases ha : x.addrFailed <;> simp_all [ret]

end Pace

/-- `Run` has not entered its event loop yet. -/
def SupPc.initializing : SupPc → Bool
  | .start | .initWait | .initDrain | .siblings _ => true
  | _ => false

namespace Sys

/-- The monitors of the log agree with the live tasks: none is broken, each live task's phase
fits its index's monitor, a timer owed after a `Serve` that waited is owed only once `ctx` is
done, and a `Serve` runs only on a live index. -/
structure PaceCore (s : Sys) : Prop where
  notBroken : ∀ i, Pace.run i s.log ≠ .broken
  phase : ∀ t ∈ s.tasks, t.phase.PaceOK (Pace.run t.index s.log)
  late : ∀ i inline, Pace.run i s.log = .owed false inline → s.ctxDone = true
  serving : ∀ i b, Pace.run i s.log = .serving b → i ∈ s.indices

/-- `PaceCore`, and during `initialize` no event concerns an index that is not live. -/
structure PaceInv (s : Sys) extends PaceCore s : Prop where
  fresh : s.pc.initializing = true → ∀ i ∉ s.indices, Pace.run i s.log = .idle

theorem paceInv_init (cfg : Config) : (Sys.init cfg).PaceInv :=
  ⟨⟨fun _ => nofun, nofun, fun _ _ => nofun, fun _ _ => nofun⟩, fun _ _ _ => rfl⟩

theorem PaceCore.of_same {s s' : Sys} (hp : s.PaceCore) (ht : s'.tasks = s.tasks)
    (hl : s'.log = s.log) (hx : s.ctxDone = true → s'.ctxDone = true) : s'.PaceCore := by
  have hi : s'.indices = s.indices := by rw [Sys.indices, ht]; rfl
  refine ⟨fun i => ?_, fun t h => ?_, fun i inl h => hx ?_, fun i b h => ?_⟩ <;> rw [hl] at *
  · exact hp.notBroken i
  · exact hp.phase t (ht ▸ h)
  · exact hp.late i inl h
  · exact hi ▸ hp.serving i b h

theorem PaceInv.of_same {s s' : Sys} (hp : s.PaceInv) (ht : s'.tasks = s.tasks)
    (hl : s'.log = s.log) (hx : s.ctxDone = true → s'.ctxDone = true)
    (hpc : s'.pc.initializing = true → s.pc.initializing = true) : s'.PaceInv := by
  have hi : s'.indices = s.indices := by rw [Sys.indices, ht]; rfl
  exact ⟨hp.toPaceCore.of_same ht hl hx, fun h i hin => hl ▸ hp.fresh (hpc h) i (hi ▸ hin)⟩

/-- A new task at its call, on an index whose monitor is idle. -/
theorem PaceCore.spawn {s s' : Sys} (hp : s.PaceCore) {t : Task} (hcall : t.phase = .call)
    (hidle : Pace.run t.index s.log = .idle) (ht : s'.tasks = s.tasks ++ [t])
    (hl : s'.log = s.log ++ [.spawned t.index]) (hx : s.ctxDone = true → s'.ctxDone = true) :
    s'.PaceCore := by
  have hrun : ∀ i, Pace.run i s'.log = Pace.run i s.log := fun i => by
    rw [hl, Pace.run_append]; rfl
  refine ⟨fun i => hrun i ▸ hp.notBroken i, fun t' h => ?_, fun i inl h => hx (hp.late i inl
    (hrun i ▸ h)), fun i b h => ?_⟩
  · rw [hrun]
    rcases List.mem_append.1 (ht ▸ h) with h | h
    · exact hp.phase t' h
    · rw [List.mem_singleton.1 h, hcall]
      exact .inl hidle
  · simpa [Sys.indices, ht] using Or.inl (hp.serving i b (hrun i ▸ h))

/-- A receipt keeps `PaceCore`, and the received index's monitor is that of a task at its
send. -/
theorem PaceCore.receive {s : Sys} (hp : s.PaceCore) {n : Nat} {site : RecvSite}
    {r : Sys × Nat × Option TunnelErr} (h : s.receive n site = some r) :
    r.1.PaceCore ∧ (Phase.send r.2.2).PaceOK (Pace.run r.2.1 r.1.log) := by
  obtain ⟨t, ht, hph, hi, h1⟩ := receive_eq_some h
  have hperm := receive_indices_perm h
  have hrun : ∀ i, Pace.run i r.1.log = Pace.run i s.log := fun i => by
    rw [h1, Pace.run_append]; rfl
  have hsend : (Phase.send r.2.2).PaceOK (Pace.run r.2.1 s.log) :=
    hph ▸ hi ▸ hp.phase t (List.getElem?_mem ht)
  refine ⟨⟨fun i => hrun i ▸ hp.notBroken i, fun t' h' => ?_, fun i inl h' => ?_,
    fun i b h' => ?_⟩, hrun _ ▸ hsend⟩
  · rw [h1] at h'
    rw [hrun]
    exact hp.phase t' (List.mem_of_mem_eraseIdx h')
  · rw [h1]
    exact hp.late i inl (hrun i ▸ h')
  · rw [hrun] at h'
    rcases List.mem_cons.1 (hperm.mem_iff.1 (hp.serving i b h')) with rfl | hmem
    · rcases hsend with h₀ | ⟨_, h₀, -⟩ <;> simp [h₀] at h'
    · exact hmem

/-! ### Every step keeps the invariant -/

/-- A step of the task at `n` that sets its phase to `ph` and logs events of its index only
keeps `PaceInv`, if the task's own monitor stays as its new phase needs it. -/
theorem PaceInv.of_local {s s' : Sys} (hp : s.PaceInv) (hnd : s.indices.Nodup) {n : Nat}
    {t : Task} (ht : s.tasks[n]? = some t) {ph : Phase} (es : List Event)
    (htasks : s'.tasks = s.tasks.set n { t with phase := ph }) (hlog : s'.log = s.log ++ es)
    (hes : ∀ e ∈ es, e.ofTask t.index = true) (hctx : s'.ctxDone = s.ctxDone)
    (hpc : s'.pc = s.pc)
    (hloc : ∀ p, t.phase.PaceOK p → (∀ inl, p = .owed false inl → s.ctxDone = true) →
      Pace.runFrom t.index p es ≠ .broken ∧ ph.PaceOK (Pace.runFrom t.index p es) ∧
        ∀ inl, Pace.runFrom t.index p es = .owed false inl → s.ctxDone = true) :
    s'.PaceInv := by
  have hrun : ∀ i, Pace.run i s'.log =
      if i = t.index then Pace.runFrom i (Pace.run i s.log) es else Pace.run i s.log := by
    intro i
    rw [hlog, Pace.run_append]
    split_ifs with h
    · rfl
    · exact Pace.runFrom_of_ofTask h hes _
  have hti : t.index ∈ s.indices := List.mem_map_of_mem _ (List.getElem?_mem ht)
  have hidx : s'.indices = s.indices := by rw [Sys.indices, htasks]; exact map_set_of_getElem? ht rfl
  obtain ⟨hnb, hph, hlate⟩ := hloc _ (hp.phase t (List.getElem?_mem ht)) (hp.late _)
  refine ⟨⟨fun i => ?_, ?_, fun i inl h => ?_, fun i b h => ?_⟩, fun hin i hi => ?_⟩
  · rw [hrun]
    split_ifs with h
    · subst h
      exact hnb
    · exact hp.notBroken i
  · rw [htasks]
    refine forall_mem_set_of_nodup ht hnd ?_ fun x hx hne => ?_
    · show ph.PaceOK (Pace.run t.index s'.log)
      rw [hrun, if_pos rfl]
      exact hph
    · rw [hrun, if_neg hne]
      exact hp.phase x hx
  · rw [hctx]
    rw [hrun] at h
    split_ifs at h with hi
    · subst hi
      exact hlate inl h
    · exact hp.late i inl h
  · rw [hidx]
    rw [hrun] at h
    split_ifs at h with hi
    · exact hi ▸ hti
    · exact hp.serving i b h
  · rw [hidx] at hi
    rw [hpc] at hin
    have hne : i ≠ t.index := by rintro rfl; exact hi hti
    rw [hrun, if_neg hne]
    exact hp.fresh hin i hi

theorem firstTunnelRetries_ctxDone (isStaticEdge : Bool) (err : Option TunnelErr) (retry : Bool) :
    firstTunnelRetries isStaticEdge true err retry = false := by
  cases err <;> rfl

/-- `Serve` on the task at `n` returns `err` from `x`, after the events `pre` of its index, from a
state `s₀` that has `s`'s tasks and `ctx` and extends its log by `pre`. This keeps `PaceInv` when
each monitor the task's phase allows is serving after `pre`, and `ctx` is done if the call returns
a `failing` error before any timer fired other than on an address failure. -/
theorem PaceInv.of_returnServe {s s₀ : Sys} (hp : s.PaceInv) (hnd : s.indices.Nodup) {n : Nat}
    {t : Task} (ht : s.tasks[n]? = some t) {err : Option TunnelErr} {x : ServeExit}
    (pre : List Event) (htasks : s₀.tasks = s.tasks) (hlog : s₀.log = s.log ++ pre)
    (hpre : ∀ e ∈ pre, e.ofTask t.index = true) (hctx : s₀.ctxDone = s.ctxDone) (hpc : s₀.pc = s.pc)
    (hserve : ∀ p, t.phase.PaceOK p → ∃ b, Pace.runFrom t.index p pre = .serving b ∧
      (x.addrFailed = false → b = false → failing err = true → s.ctxDone = true)) :
    (s₀.returnServe n t err x).PaceInv := by
  refine hp.of_local hnd ht (pre ++ [.serveReturned t.index err x])
    (by rw [← htasks]; rfl) (by rw [← List.append_assoc, ← hlog]; rfl)
    (List.forall_mem_append.2 ⟨hpre, by simp [Event.ofTask]⟩) hctx hpc fun p hp₀ _ => ?_
  obtain ⟨b, hb, hx⟩ := hserve p hp₀
  simpa [Pace.runFrom_append, hb] using Pace.ret_serving_ok t.first err x b s.ctxDone hx

theorem PaceInv.of_taskStep {cfg : Config} {s s' : Sys} {n : Nat} {l : TaskLabel}
    (hp : s.PaceInv) (hnd : s.indices.Nodup) (h : s.taskStep cfg n l = some s') : s'.PaceInv := by
  unfold taskStep at h
  split at h
  · cases h
  rename_i t ht
  have hserving : ∀ {err : Option TunnelErr} {x : ServeExit},
      (x.addrFailed = false → failing err = true → s.ctxDone = true) →
      (∀ p, t.phase.PaceOK p → ∃ b, p = .serving b) → ∀ p, t.phase.PaceOK p →
        ∃ b, Pace.runFrom t.index p [] = .serving b ∧
          (x.addrFailed = false → b = false → failing err = true → s.ctxDone = true) :=
    fun hx hph p hp₀ => (hph p hp₀).imp fun _ hb => ⟨hb, fun h _ => hx h⟩
  split at h <;> try dsimp only at h
  · split at h <;> cases h
    · refine hp.of_returnServe hnd ht [.serveCalled t.index] rfl rfl (by simp [Event.ofTask]) rfl
        rfl fun p hp₀ => ⟨false, ?_, nofun⟩
      rw [‹t.phase = _›] at hp₀
      rcases hp₀ with rfl | rfl <;> simp [Pace.call]
    · refine hp.of_local hnd ht
        [.serveCalled t.index, .attempted t.index (s.tunnelsProtocolFallback t.index).protocol]
        (by rfl) (by simp [setPhase, logEvent]) (by simp [Event.ofTask]) rfl rfl fun p hp₀ _ => ?_
      rw [‹t.phase = _›] at hp₀
      rcases hp₀ with rfl | rfl <;> simp [Pace.step, Pace.call, Phase.PaceOK]
  · rename_i proto _
    cases h
    refine hp.of_local hnd ht [.connected t.index proto] (by rfl)
      (by simp [setPhase, setFallback, logEvent]) (by simp [Event.ofTask]) rfl rfl
      fun p hp₀ _ => ?_
    rw [‹t.phase = _›] at hp₀
    obtain ⟨b, rfl⟩ := hp₀
    simp [Pace.step, Phase.PaceOK]
  · have hph : ∀ p, t.phase.PaceOK p → ∃ b, p = .serving b := fun p hp₀ => by
      rwa [‹t.phase = _›] at hp₀
    split_ifs at h <;> cases h
    · exact hp.of_returnServe hnd ht [] rfl (List.append_nil _).symm nofun rfl rfl
        (hserving nofun hph)
    · refine hp.of_local hnd ht [] (by rfl) (List.append_nil _).symm nofun rfl rfl
        fun p hp₀ hl₀ => ?_
      obtain ⟨b, rfl⟩ := hph p hp₀
      exact ⟨nofun, ⟨b, rfl⟩, hl₀⟩
    · exact hp.of_returnServe hnd ht [] rfl (List.append_nil _).symm nofun rfl rfl
        (hserving (fun _ _ => ctxDone_of_not_maxBackoffAllows ‹_›) hph)
  · split at h <;> cases h
    rename_i e he
    have hctx : s.ctxDone = true := by simp [Sys.ctxDone, he]
    exact hp.of_returnServe hnd ht [] rfl (List.append_nil _).symm nofun rfl rfl
      (hserving (fun _ _ => hctx) fun p hp₀ => by rwa [‹t.phase = _›] at hp₀)
  · split at h <;> cases h
    exact hp.of_returnServe hnd ht [] rfl (List.append_nil _).symm nofun rfl rfl
      (hserving (fun _ h => nomatch h) fun p hp₀ => by rwa [‹t.phase = _›] at hp₀)
  · rename_i err _ _ _ _
    have hfired : ∀ p, t.phase.PaceOK p →
        ∃ b, Pace.runFrom t.index p [.backoffFired t.index] = .serving b ∧
          (ServeExit.backoff.addrFailed = false → b = false → failing err = true →
            s.ctxDone = true) :=
      fun p hp₀ => by
        obtain ⟨b, rfl⟩ := ‹t.phase = _› ▸ hp₀
        exact ⟨true, by simp [Pace.fire], fun _ h => nomatch h⟩
    split at h <;> cases h <;>
      exact hp.of_returnServe hnd ht [.backoffFired t.index] rfl rfl (by simp [Event.ofTask]) rfl
        rfl hfired
  · rename_i err _
    split at h <;> cases h
    · rename_i hretry
      refine hp.of_local hnd ht [.retriedInline t.index] (by rfl) (by simp [setPhase, logEvent])
        (by simp [Event.ofTask]) rfl rfl fun p hp₀ hl₀ => ?_
      rw [‹t.phase = _›] at hp₀
      simp only [Pace.runFrom_cons, Pace.step_retriedInline_self, Pace.runFrom_nil]
      rcases hp₀ with rfl | ⟨early, rfl, -⟩
      · simp [Pace.inline, Phase.PaceOK]
      · cases early
        · rw [hl₀ false rfl, firstTunnelRetries_ctxDone] at hretry
          cases hretry
        · simp [Pace.inline, Phase.PaceOK]
    · refine hp.of_local hnd ht [] (by rfl) (List.append_nil _).symm nofun rfl rfl
        fun p hp₀ hl₀ => ?_
      rw [‹t.phase = _›] at hp₀
      refine ⟨?_, hp₀, hl₀⟩
      rcases hp₀ with rfl | ⟨_, rfl, -⟩ <;> simp
  · cases h

theorem PaceCore.toInv {s : Sys} (hp : s.PaceCore) (hpc : s.pc.initializing = false) :
    s.PaceInv :=
  ⟨hp, fun h => by rw [hpc] at h; cases h⟩

theorem PaceCore.toInv_of_same {s s' : Sys} (hp : s.PaceCore) (ht : s'.tasks = s.tasks)
    (hl : s'.log = s.log) (hx : s.ctxDone = true → s'.ctxDone = true)
    (hpc : s'.pc.initializing = false) : s'.PaceInv :=
  (hp.of_same ht hl hx).toInv hpc

/-- `initialize` starts a task on an index no task has had yet. -/
theorem PaceInv.spawnFresh {s s' : Sys} (hp : s.PaceInv) (hpc : s.pc.initializing = true)
    {t : Task} (hcall : t.phase = .call) (hnew : t.index ∉ s.indices)
    (ht : s'.tasks = s.tasks ++ [t]) (hl : s'.log = s.log ++ [.spawned t.index])
    (hx : s'.ctxDone = s.ctxDone) : s'.PaceInv := by
  refine ⟨hp.toPaceCore.spawn hcall (hp.fresh hpc _ hnew) ht hl (hx ▸ id), fun _ i hi => ?_⟩
  have hi' : i ∉ s.indices := by simp_all [Sys.indices]
  rw [hl, Pace.run_append, Pace.runFrom_cons, Pace.step_spawned]
  exact hp.fresh hpc i hi'

/-- The event loop's `backoffTimer` case: the timer fires for the waiting indices, none of them
live, whose monitors become idle, and their tasks restart at their call. -/
theorem PaceCore.of_fireBackoffTimer {s : Sys} (hp : s.PaceCore)
    (hnd : (s.indices ++ s.tunnelsWaiting).Nodup) : s.fireBackoffTimer.PaceCore := by
  obtain ⟨ts, c, ni, nc, ns, hts, hph, heq⟩ :=
    respawnWaiting_eq ({ s with backoffTimer := false }.logEvent (.timerFired s.tunnelsWaiting))
      s.tunnelsWaiting
  have htasks : s.fireBackoffTimer.tasks = s.tasks ++ ts := by
    simp only [fireBackoffTimer, heq]; rfl
  have hctx : s.fireBackoffTimer.ctxDone = s.ctxDone := by
    simp only [fireBackoffTimer, heq]; rfl
  have hrun : ∀ i, Pace.run i s.fireBackoffTimer.log =
      if i ∈ s.tunnelsWaiting then (Pace.run i s.log).fire else Pace.run i s.log := by
    intro i
    simp only [fireBackoffTimer, heq]
    simp only [logEvent, Pace.run_append, Pace.runFrom_spawned, Pace.runFrom_cons, Pace.runFrom_nil]
    rfl
  have hdisj := List.disjoint_of_nodup_append hnd
  have hidle : ∀ i ∈ s.tunnelsWaiting, (Pace.run i s.log).fire = .idle := by
    intro i hi
    have hnb := hp.notBroken i
    have hns : ∀ b, Pace.run i s.log ≠ .serving b := fun b h => hdisj (hp.serving i b h) hi
    cases hq : Pace.run i s.log <;> simp_all [Pace.fire]
  have hkeep : ∀ i ∈ s.indices, Pace.run i s.fireBackoffTimer.log = Pace.run i s.log :=
    fun i hi => by rw [hrun, if_neg (hdisj hi)]
  refine ⟨fun i => ?_, fun t h => ?_, fun i inl h => ?_, fun i b h => ?_⟩
  · rw [hrun]
    split_ifs with hi
    · rw [hidle i hi]; exact nofun
    · exact hp.notBroken i
  · rcases List.mem_append.1 (htasks ▸ h) with h | h
    · rw [hkeep _ (List.mem_map_of_mem _ h)]
      exact hp.phase t h
    · have hi : t.index ∈ s.tunnelsWaiting := hts ▸ List.mem_map_of_mem _ h
      rw [hrun, if_pos hi, hidle _ hi, hph t h]
      exact .inl rfl
  · rw [hrun] at h
    split_ifs at h with hi
    · rw [hidle i hi] at h; cases h
    · exact hctx ▸ hp.late i inl h
  · rw [hrun] at h
    split_ifs at h with hi
    · rw [hidle i hi] at h; cases h
    · simpa [Sys.indices, htasks] using Or.inl (hp.serving i b h)

theorem PaceInv.of_supStep {cfg : Config} {s s' : Sys} {l : SupLabel} (ha : s.Accounting)
    (hp : s.PaceInv) (h : s.supStep cfg l = some s') : s'.PaceInv := by
  have hnd := ha.books.nodup
  cases l with
  | initStart c =>
    simp only [supStep, Option.ite_none_right_eq_some, Option.some.injEq] at h
    obtain ⟨hpc, rfl⟩ := h
    obtain ⟨hi, -⟩ : s.indices = [] ∧ s.tunnelsWaiting = [] := by
      simpa [hpc, SupPc.Tracks] using ha.tracks
    exact hp.spawnFresh (by rw [hpc]; rfl) rfl (by simp [hi]) rfl rfl rfl
  | initCanceled =>
    simp only [supStep, Option.ite_none_right_eq_some, Option.some.injEq] at h
    obtain ⟨⟨hpc, -⟩, rfl⟩ := h
    exact hp.of_same rfl rfl id fun _ => by rw [hpc]; rfl
  | initDrain n =>
    obtain ⟨-, e, r, -, hr, rfl⟩ := supStep_initDrain h
    exact (hp.receive hr).1.toInv_of_same rfl rfl id rfl
  | initReceive n =>
    simp only [supStep, Option.ite_none_right_eq_some, Option.map_eq_some'] at h
    obtain ⟨-, r, hr, rfl⟩ := h
    split
    · exact (hp.receive hr).1.toInv_of_same rfl rfl id rfl
    · exact (hp.receive hr).1.toInv_of_same rfl rfl id rfl
  | initShutdown =>
    simp only [supStep, Option.ite_none_right_eq_some, Option.some.injEq] at h
    obtain ⟨-, rfl⟩ := h
    exact hp.toPaceCore.toInv_of_same rfl rfl id rfl
  | initConnected =>
    simp only [supStep, Option.ite_none_right_eq_some, Option.some.injEq] at h
    obtain ⟨⟨hpc, -⟩, rfl⟩ := h
    exact hp.of_same rfl rfl id fun _ => by rw [hpc]; rfl
  | spawnSibling =>
    obtain ⟨i, hpc, -, rfl⟩ := supStep_spawnSibling h
    obtain ⟨hi, -⟩ : s.indices = List.range i ∧ s.tunnelsWaiting = [] := by
      simpa [hpc, SupPc.Tracks] using ha.tracks
    exact hp.spawnFresh (by rw [hpc]; rfl) rfl (by simp [hi]) rfl rfl rfl
  | startLoop =>
    obtain ⟨i, -, -, rfl⟩ := supStep_startLoop h
    exact hp.toPaceCore.toInv_of_same rfl rfl id rfl
  | loopCanceled | drainDone | loopShutdown =>
    simp only [supStep, Option.ite_none_right_eq_some, Option.some.injEq] at h
    obtain ⟨⟨hpc, -⟩, rfl⟩ := h
    exact hp.of_same rfl rfl id fun h => by simp [hpc, SupPc.initializing] at h
  | drainReceive n =>
    simp only [supStep, Option.ite_none_right_eq_some, Option.map_eq_some'] at h
    obtain ⟨⟨hpc, -⟩, r, hr, rfl⟩ := h
    exact (hp.receive hr).1.toInv_of_same rfl rfl id (by
      simp [(receive_control hr).1, hpc, SupPc.initializing])
  | loopReceive n pick =>
    simp only [supStep, Option.ite_none_right_eq_some, Option.map_eq_some'] at h
    obtain ⟨hpc, r, hr, rfl⟩ := h
    obtain ⟨hr₁, hsend⟩ := hp.receive hr
    have hpc₁ : r.1.pc = .loop := (receive_control hr).1.trans hpc
    rcases handleTunnelError_cases r.1 r.2.1 r.2.2 _ pick with ⟨h, e, he, hre⟩ | h | h | ⟨h, -⟩ <;>
      rw [h]
    · have hidle : Pace.run r.2.1 r.1.log = .idle := by
        rw [he] at hsend
        rcases hsend with h₀ | ⟨_, -, hf⟩
        · exact h₀
        · simp [failing, hre] at hf
      refine PaceCore.toInv ?_ (show r.1.pc.initializing = false by rw [hpc₁]; rfl)
      exact hr₁.spawn rfl hidle rfl rfl id
    · exact hr₁.toInv_of_same rfl rfl id (by simp [waitForNextTunnel, hpc₁, SupPc.initializing])
    · exact hr₁.toInv_of_same rfl rfl id (by simp [hpc₁, SupPc.initializing])
    · exact hr₁.toInv_of_same rfl rfl id rfl
  | loopTimer =>
    simp only [supStep, Option.ite_none_right_eq_some, Option.some.injEq] at h
    obtain ⟨⟨hpc, -⟩, rfl⟩ := h
    refine (hp.toPaceCore.of_fireBackoffTimer hnd).toInv ?_
    obtain ⟨ts, c, ni, nc, ns, -, -, heq⟩ := respawnWaiting_eq
      ({ s with backoffTimer := false }.logEvent (.timerFired s.tunnelsWaiting)) s.tunnelsWaiting
    simp only [fireBackoffTimer, heq]
    simp [logEvent, hpc, SupPc.initializing]
  | loopConnected pick =>
    obtain ⟨hpc, -, rfl⟩ := supStep_loopConnected h
    exact hp.toPaceCore.toInv_of_same rfl rfl id (by simp [waitForNextTunnel, hpc, SupPc.initializing])

theorem PaceInv.of_envStep {s s' : Sys} {l : EnvLabel} (hp : s.PaceInv)
    (h : s.envStep l = some s') : s'.PaceInv := by
  cases l <;> dsimp only [envStep] at h <;> split at h <;> cases h <;>
    exact hp.of_same rfl rfl (fun h => by first | rfl | exact h) id

theorem PaceInv.of_step {cfg : Config} {s s' : Sys} {l : Label} (ha : s.Accounting)
    (hp : s.PaceInv) (h : step cfg s l = some s') : s'.PaceInv := by
  cases l with
  | env l => exact hp.of_envStep h
  | sup l => exact hp.of_supStep ha h
  | task n l => exact hp.of_taskStep (List.nodup_append.1 ha.books.nodup).1 h

end Sys

/-- In every reachable state the monitors of the log agree with the live tasks, and none is
broken. -/
theorem paceInv_of_reachable {cfg : Config} {s : Sys} (hs : Reachable cfg s) : s.PaceInv := by
  induction hs with
  | init => exact Sys.paceInv_init cfg
  | step l hs h ih => exact ih.of_step (accounting_of_reachable hs) h

/-! ### The retry law -/

namespace Pace

/-- One event within a `Serve` that no timer interrupts keeps the monitor at `serving false`,
or breaks it if another `Serve` starts. -/
theorem step_unpaced {i : Nat} {x : Event} (hf : x.firesTimerOf i = false)
    (hr : ∀ err w, x ≠ .serveReturned i err w) :
    step i (serving false) x = serving false ∨ step i (serving false) x = broken := by
  cases x <;> simp_all [step, Event.firesTimerOf] <;> split_ifs <;> simp_all [call, inline]

theorem runFrom_unpaced {i : Nat} :
    ∀ {l : List Event} {p : Pace}, (p = serving false ∨ p = broken) →
      (∀ x ∈ l, x.firesTimerOf i = false) → (∀ err w, Event.serveReturned i err w ∉ l) →
      runFrom i p l = serving false ∨ runFrom i p l = broken
  | [], _, hp, _, _ => hp
  | x :: l, p, hp, hf, hr => by
    rw [runFrom_cons]
    refine runFrom_unpaced ?_ (fun y hy => hf y (List.mem_cons_of_mem _ hy))
      (fun err w h => hr err w (List.mem_cons_of_mem _ h))
    rcases hp with rfl | rfl
    · exact step_unpaced (hf x (List.mem_cons_self _ _))
        fun err w h => hr err w (h ▸ List.mem_cons_self _ _)
    · exact .inr (step_broken i x)

/-- One event between a `Serve` that owes a timer and the next, with no timer firing: only
`startFirstTunnel`'s loop marks the owed timer. -/
theorem step_owed {i : Nat} {x : Event} (hf : x.firesTimerOf i = false)
    (hc : x ≠ .serveCalled i) (early inl : Bool) :
    step i (owed early inl) x = owed early (inl || decide (x = .retriedInline i)) := by
  cases x <;> simp_all [step, Event.firesTimerOf, ret, inline]
  split_ifs <;> simp_all

theorem runFrom_owed {i : Nat} {early : Bool} :
    ∀ {l : List Event} (inl : Bool), (∀ x ∈ l, x.firesTimerOf i = false) →
      Event.serveCalled i ∉ l →
      ∃ inl', runFrom i (owed early inl) l = owed early inl' ∧
        (Event.retriedInline i ∉ l → inl' = inl)
  | [], inl, _, _ => ⟨inl, rfl, fun _ => rfl⟩
  | x :: l, inl, hf, hc => by
    obtain ⟨inl', h, hinl⟩ := runFrom_owed (inl || decide (x = .retriedInline i))
      (fun y hy => hf y (List.mem_cons_of_mem _ hy)) (fun h => hc (List.mem_cons_of_mem _ h))
    refine ⟨inl', ?_, fun hn => ?_⟩
    · rw [runFrom_cons, step_owed (hf x (List.mem_cons_self _ _))
        (fun h => hc (h ▸ List.mem_cons_self _ _)), h]
    · have : x ≠ .retriedInline i := fun h => hn (h ▸ List.mem_cons_self _ _)
      rw [hinl fun h => hn (List.mem_cons_of_mem _ h)]
      simp [this]

end Pace

theorem Pace.call_eq (p : Pace) : p.call = serving false ∨ p.call = broken := by
  cases p with
  | owed early inl => cases early <;> cases inl <;> simp [call]
  | _ => simp [call]

/-- In every run, after a `Serve` on `i` that returns a failing error, a backoff timer of `i`
fires before the next `Serve` on `i`, unless that `Serve` returned because `GetAddr` or
`GetDifferentAddr` failed and `startFirstTunnel` continued its loop. -/
theorem serve_retries_paced {cfg : Config} {s : Sys} (hs : Reachable cfg s) {i : Nat}
    {l₁ l₂ l₃ l₄ : List Event} {e : TunnelErr} {x : ServeExit}
    (hlog : s.log = l₁ ++ .serveCalled i :: l₂ ++ .serveReturned i (some e) x :: l₃ ++
      .serveCalled i :: l₄)
    (h₂ : ∀ err x', Event.serveReturned i err x' ∉ l₂) (h₃ : Event.serveCalled i ∉ l₃)
    (he : e.isReconnectSignal = false) :
    (∃ y ∈ l₂ ++ l₃, y.firesTimerOf i = true) ∨
      (x.addrFailed = true ∧ Event.retriedInline i ∈ l₃) := by
  by_contra hne
  simp only [not_or, not_exists, not_and, List.mem_append, Bool.not_eq_true] at hne
  obtain ⟨hfire, hinl⟩ := hne
  apply (paceInv_of_reachable hs).notBroken i
  have hf : failing (some e) = true := by simp [failing, he]
  simp only [hlog, Pace.run_append, List.cons_append, List.append_assoc, Pace.runFrom_cons,
    Pace.runFrom_append, Pace.step_serveCalled_self, Pace.step_serveReturned_self]
  rcases Pace.runFrom_unpaced (Pace.call_eq (Pace.run i l₁)) (fun x hx => hfire x (.inl hx)) h₂
    with h | h <;> rw [h]
  · obtain ⟨inl', h', hinl'⟩ := Pace.runFrom_owed false (fun x hx => hfire x (.inr hx)) h₃
    simp only [Pace.ret, hf, Bool.not_false, Bool.and_self, if_true]
    rw [h']
    cases hx : x.addrFailed
    · simp [Pace.call]
    · rw [hinl' (hinl hx)]
      simp [Pace.call]
  · simp [Pace.ret, Pace.call]

/-! ### Runs -/

/-- After `queueSecond`, the backoff timer fires and the event loop respawns index `1`, whose
new task calls `Serve`. -/
def retrySecond : List Label := queueSecond ++ [.sup .loopTimer, .task 1 (.serve none)]

/-- The state `retrySecond` ends in. -/
def retriedSecond : Sys := (run twoTunnels (Sys.init twoTunnels) retrySecond).getD (Sys.init twoTunnels)

theorem retriedSecond_reachable : Reachable twoTunnels retriedSecond :=
  reachable_of_run (show run twoTunnels (Sys.init twoTunnels) retrySecond = some retriedSecond from rfl)

theorem serve_retries_paced_retriedSecond :
    (∃ y ∈ ([.attempted 1 .quic, .backoffFired 1] ++
        [.received 1 (some (.dial "dial tcp: i/o timeout")) .loopSelect, .timerFired [1],
          .spawned 1] : List Event), y.firesTimerOf 1 = true) ∨
      (ServeExit.backoff.addrFailed = true ∧ Event.retriedInline 1 ∈
        [.received 1 (some (.dial "dial tcp: i/o timeout")) .loopSelect, .timerFired [1],
          .spawned 1]) :=
  serve_retries_paced retriedSecond_reachable
    (show retriedSecond.log =
      [.spawned 0, .serveCalled 0, .attempted 0 .quic, .connected 0 .quic, .spawned 1] ++
        .serveCalled 1 :: [.attempted 1 .quic, .backoffFired 1] ++
        .serveReturned 1 (some (.dial "dial tcp: i/o timeout")) .backoff ::
          [.received 1 (some (.dial "dial tcp: i/o timeout")) .loopSelect, .timerFired [1],
            .spawned 1] ++
        .serveCalled 1 :: [.attempted 1 .quic] from rfl)
    (by simp) (by simp) rfl

/-- A static edge with one connection. -/
def staticEdge : Config := ⟨1, 4, true, 5⟩

/-- `GetAddr` of index `0` finds no address left, so `Serve` returns before its backoff, and
`startFirstTunnel`, on a static edge, calls it again. -/
def retryAtOnce : List Label :=
  [.sup (.initStart .quic),
    .task 0 (.serve (some (.noAddressesLeft "there are no free edge addresses left to resolve to"))),
    .task 0 .retryFirst, .task 0 (.serve none)]

/-- A failing `Serve` on index `0` is followed by the next with no timer in between. -/
theorem firstTunnel_retries_at_once :
    ∃ s, run staticEdge (Sys.init staticEdge) retryAtOnce = some s ∧
      s.log = [.spawned 0, .serveCalled 0,
        .serveReturned 0
          (some (.noAddressesLeft "there are no free edge addresses left to resolve to")) .getAddr,
        .retriedInline 0, .serveCalled 0, .attempted 0 .quic] ∧
      ∀ x ∈ s.log, x.firesTimerOf 0 = false :=
  ⟨_, rfl, rfl, by decide⟩

/-- `initialize` starts index `0`, which registers with HTTP/2, then index `1`, and `Run` enters
its event loop. -/
def bringUpHttp2 : List Label :=
  [.sup (.initStart .http2), .task 0 (.serve none), .task 0 .connect, .env (.notify 0),
    .sup .initConnected, .sup .spawnSibling, .sup .startLoop]

/-- After `bringUpHttp2`, `Serve` on index `1` meets post-quantum strict mode, its protocol
backoff fires, and the event loop queues it, fires the backoff timer and respawns it. -/
def strictRetry : List Label :=
  bringUpHttp2 ++
    [.task 1 (.serve none), .task 1 (.sessionEnd ⟨none, .strict, none, none⟩ none),
      .task 1 (.backoffFired ⟨.http2, none⟩ false), .sup (.loopReceive 1 0), .sup .loopTimer,
      .task 1 (.serve none)]

/-- `serveTunnel` classifies the post-quantum error as not recoverable, and the event loop still
respawns the index, whose new task calls `Serve`. -/
theorem unrecoverable_respawned :
    serveTunnel .http2 ⟨none, .strict, none, none⟩ =
        (some (.unrecoverable "HTTP/2 transport does not support post-quantum"), false) ∧
      ∃ s, run twoTunnels (Sys.init twoTunnels) strictRetry = some s ∧
        [Event.serveReturned 1
            (some (.unrecoverable "HTTP/2 transport does not support post-quantum")) .backoff,
          .serveCalled 1].Sublist s.log :=
  ⟨rfl, _, rfl, by decide⟩

end Cloudflared.Supervisor
