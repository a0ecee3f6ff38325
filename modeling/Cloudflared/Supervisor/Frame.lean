import Cloudflared.Supervisor.Step

/-!
# What a step leaves alone

The invariants of the control loop are about its own variables, the indices of the live tasks and
the spawns and receipts of the log. A step of a serving task touches none of these: it changes its
own phase, the shared collaborators, the protocol fallbacks, and logs events that are neither
spawns nor receipts (`taskStep_sameControl`). A step of the environment touches none of them
either (`envStep_sameControl`). So every invariant below is proved once for these steps, and its
proof looks only at the steps of the control goroutine.

A receive takes the task out of the list and logs its receipt (`receive_eq_some`); the indices of
the tasks before are those after, with the received one in front (`receive_indices_perm`).
-/

namespace Cloudflared.Supervisor

/-! ### Lists addressed by position -/

theorem map_set_of_getElem? {α β : Type} {f : α → β} :
    ∀ {l : List α} {n : Nat} {a b : α}, l[n]? = some a → f b = f a → (l.set n b).map f = l.map f
  | [], _, _, _, h, _ => by simp at h
  | x :: l, 0, a, b, h, hb => by
    simp only [List.getElem?_cons_zero, Option.some.injEq] at h
    subst h
    simp [hb]
  | x :: l, n + 1, a, b, h, hb => by
    simp only [List.getElem?_cons_succ] at h
    simp [map_set_of_getElem? h hb]

theorem map_eraseIdx_perm {α β : Type} {f : α → β} :
    ∀ {l : List α} {n : Nat} {a : α}, l[n]? = some a →
      (l.map f).Perm (f a :: (l.eraseIdx n).map f)
  | [], _, _, h => by simp at h
  | x :: l, 0, a, h => by
    simp only [List.getElem?_cons_zero, Option.some.injEq] at h
    subst h
    simp
  | x :: l, n + 1, a, h => by
    simp only [List.getElem?_cons_succ] at h
    simpa using ((map_eraseIdx_perm h : (l.map f).Perm _).cons (f x)).trans (List.Perm.swap _ _ _)

/-- Replacing the element at `n` by one with the same key keeps a property of every element,
when the keys are distinct and the others keep it. -/
theorem forall_mem_set_of_nodup {α β : Type} {f : α → β} {P : α → Prop} :
    ∀ {l : List α} {n : Nat} {a b : α}, l[n]? = some a → (l.map f).Nodup → P b →
      (∀ x ∈ l, f x ≠ f a → P x) → ∀ x ∈ l.set n b, P x
  | [], _, _, _, h, _, _, _ => by simp at h
  | y :: l, 0, a, b, h, hnd, hb, hr => by
    simp only [List.getElem?_cons_zero, Option.some.injEq] at h
    subst h
    simp only [List.map_cons, List.nodup_cons] at hnd
    intro x hx
    rcases List.mem_cons.1 (by simpa using hx) with rfl | hx
    · exact hb
    · exact hr x (List.mem_cons_of_mem _ hx) fun he => hnd.1 (he ▸ List.mem_map_of_mem f hx)
  | y :: l, n + 1, a, b, h, hnd, hb, hr => by
    simp only [List.getElem?_cons_succ] at h
    simp only [List.map_cons, List.nodup_cons] at hnd
    intro x hx
    rcases List.mem_cons.1 (by simpa using hx) with rfl | hx
    · exact hr x (List.mem_cons_self _ _) fun he =>
        hnd.1 (he ▸ List.mem_map_of_mem f (List.getElem?_mem h))
    · exact forall_mem_set_of_nodup h hnd.2 hb (fun x h₁ h₂ => hr x (List.mem_cons_of_mem _ h₁) h₂)
        x hx

/-! ### Logs that grow by other events -/

/-- `l'` is `l` followed by events that are neither spawns nor receipts. -/
def QuietExt (l l' : List Event) : Prop := ∃ es, l' = l ++ es ∧ ∀ e ∈ es, e.isControl = false

theorem QuietExt.refl (l : List Event) : QuietExt l l := ⟨[], by simp, by simp⟩

theorem QuietExt.trans {l₁ l₂ l₃ : List Event} :
    QuietExt l₁ l₂ → QuietExt l₂ l₃ → QuietExt l₁ l₃
  | ⟨es₁, h₁, q₁⟩, ⟨es₂, h₂, q₂⟩ =>
    ⟨es₁ ++ es₂, by rw [h₂, h₁, List.append_assoc],
      fun e he => (List.mem_append.1 he).elim (q₁ e) (q₂ e)⟩

theorem QuietExt.snoc (l : List Event) {e : Event} (he : e.isControl = false) :
    QuietExt l (l ++ [e]) := ⟨[e], rfl, by simpa using he⟩

theorem QuietExt.spawnedCount {l l' : List Event} (h : QuietExt l l') (p : Nat → Bool) :
    spawnedCount p l' = spawnedCount p l := by
  obtain ⟨es, rfl, q⟩ := h
  simp [spawnedCount_of_quiet q]

theorem QuietExt.receivedCount {l l' : List Event} (h : QuietExt l l') (p : Nat → Bool) :
    receivedCount p l' = receivedCount p l := by
  obtain ⟨es, rfl, q⟩ := h
  simp [receivedCount_of_quiet q]

theorem QuietExt.mem {l l' : List Event} (h : QuietExt l l') {e : Event} (he : e ∈ l) : e ∈ l' := by
  obtain ⟨es, rfl, -⟩ := h
  exact List.mem_append_left _ he

/-! ### Receiving a `tunnelError` -/

namespace Sys

/-- A receive takes a task at its send out of the list and logs its receipt. -/
theorem receive_eq_some {s : Sys} {n : Nat} {site : RecvSite} {r : Sys × Nat × Option TunnelErr}
    (h : s.receive n site = some r) :
    ∃ t, s.tasks[n]? = some t ∧ t.phase = .send r.2.2 ∧ r.2.1 = t.index ∧
      r.1 = { s with tasks := s.tasks.eraseIdx n,
                     log := s.log ++ [.received t.index r.2.2 site] } := by
  unfold receive at h
  split at h
  · cases h
    exact ⟨_, ‹_›, rfl, rfl, rfl⟩
  · cases h

theorem receive_indices_perm {s : Sys} {n : Nat} {site : RecvSite}
    {r : Sys × Nat × Option TunnelErr} (h : s.receive n site = some r) :
    s.indices.Perm (r.2.1 :: r.1.indices) := by
  obtain ⟨t, ht, -, hi, h1⟩ := receive_eq_some h
  rw [hi, h1]
  exact map_eraseIdx_perm ht

/-- A receive changes none of the control goroutine's variables. -/
theorem receive_control {s : Sys} {n : Nat} {site : RecvSite} {r : Sys × Nat × Option TunnelErr}
    (h : s.receive n site = some r) :
    r.1.pc = s.pc ∧ r.1.haConnections = s.haConnections ∧ r.1.tunnelsActive = s.tunnelsActive ∧
      r.1.tunnelsWaiting = s.tunnelsWaiting ∧ r.1.backoffTimer = s.backoffTimer ∧
      r.1.shuttingDown = s.shuttingDown := by
  obtain ⟨t, -, -, -, h1⟩ := receive_eq_some h
  rw [h1]
  exact ⟨rfl, rfl, rfl, rfl, rfl, rfl⟩

/-! ### The event loop's cases -/

/-- The `tunnelError` case after the receive either respawns the index at once, queues it with the
timer armed, drops it, or returns because no tunnel is left. -/
theorem handleTunnelError_cases (s : Sys) (i : Nat) (err : Option TunnelErr) (retry : Bool)
    (pick : Nat) :
    let s₁ : Sys := { s with tunnelsActive := s.tunnelsActive - 1 }
    (s.handleTunnelError i err retry pick = { s₁.startTunnel i with tunnelsActive := s.tunnelsActive } ∧
        ∃ e, err = some e ∧ e.isReconnectSignal = true) ∨
      s.handleTunnelError i err retry pick =
        { (s₁.waitForNextTunnel i pick).1 with
          tunnelsWaiting := s.tunnelsWaiting ++ [i], backoffTimer := true } ∨
      s.handleTunnelError i err retry pick = s₁ ∨
      (s.handleTunnelError i err retry pick = { s₁ with pc := .exit .allDone } ∧
        s.tunnelsActive - 1 = 0) := by
  unfold handleTunnelError
  dsimp only
  split
  · rename_i e _
    split_ifs with hr
    · exact .inl ⟨by simp, e, rfl, hr⟩
    · simp
    · simp
  · split_ifs with h <;> simp [h]

/-- Respawning the waiting indices appends one fresh task for each, in order, and logs their
spawns; it changes nothing else but the connected-signal bookkeeping. -/
theorem respawnWaiting_eq (s : Sys) (is : List Nat) :
    ∃ ts : List Task, ∃ c : List (Nat × Nat), ∃ ni nc : Nat, ∃ ns : Option Nat,
      ts.map (·.index) = is ∧ (∀ t ∈ ts, t.phase = .call) ∧
      s.respawnWaiting is =
        { s with tasks := s.tasks ++ ts, log := s.log ++ is.map Event.spawned,
                 tunnelsConnecting := c, nextConnectedIndex := ni, nextConnectedSignal := ns,
                 nextChan := nc } := by
  induction is generalizing s with
  | nil =>
    exact ⟨[], s.tunnelsConnecting, s.nextConnectedIndex, s.nextChan, s.nextConnectedSignal, rfl,
      nofun, by simp only [respawnWaiting, List.append_nil, List.map_nil]⟩
  | cons i is ih =>
    obtain ⟨ts, c, ni, nc, ns, hts, hph, h⟩ := ih (s.startTunnel i)
    refine ⟨⟨i, false, .chan s.nextChan, .call⟩ :: ts, c, ni, nc, ns, by simp [hts],
      by simpa using hph, ?_⟩
    rw [respawnWaiting, h]
    simp only [startTunnel_tasks, startTunnel_log, List.append_assoc, List.map_cons,
      List.singleton_append]
    rfl

/-- The backoff timer's case starts a task for every waiting index, counts them and empties
`tunnelsWaiting`; it changes neither the control goroutine's place, `HAConnections`, nor the
shutdown flags. -/
theorem fireBackoffTimer_spec (s : Sys) :
    ∃ ts : List Task, ts.map (·.index) = s.tunnelsWaiting ∧
      s.fireBackoffTimer.tasks = s.tasks ++ ts ∧ s.fireBackoffTimer.tunnelsWaiting = [] ∧
      s.fireBackoffTimer.tunnelsActive = s.tunnelsActive + s.tunnelsWaiting.length ∧
      s.fireBackoffTimer.pc = s.pc ∧ s.fireBackoffTimer.haConnections = s.haConnections ∧
      s.fireBackoffTimer.shuttingDown = s.shuttingDown ∧
      s.fireBackoffTimer.shutdownClosed = s.shutdownClosed := by
  obtain ⟨ts, c, ni, nc, ns, hix, -, h⟩ := respawnWaiting_eq
    ({ s with backoffTimer := false }.logEvent (.timerFired s.tunnelsWaiting)) s.tunnelsWaiting
  refine ⟨ts, hix, ?_⟩
  simp only [fireBackoffTimer, h]
  simp only [List.append_cancel_left_eq, and_true, true_and]
  exact ⟨rfl, rfl, rfl, rfl, rfl, rfl⟩

/-! ### Steps that leave the control goroutine alone -/

/-- `s'` agrees with `s` on the control goroutine's variables and on the indices of the live
tasks, its log extends that of `s` by events that are neither spawns nor receipts, and a
cancelled context or a closed `gracefulShutdownC` stays so. -/
structure SameControl (s s' : Sys) : Prop where
  pc : s'.pc = s.pc
  haConnections : s'.haConnections = s.haConnections
  tunnelsWaiting : s'.tunnelsWaiting = s.tunnelsWaiting
  tunnelsActive : s'.tunnelsActive = s.tunnelsActive
  backoffTimer : s'.backoffTimer = s.backoffTimer
  shuttingDown : s'.shuttingDown = s.shuttingDown
  indices : s'.indices = s.indices
  log : QuietExt s.log s'.log
  ctxDone : s.ctxDone = true → s'.ctxDone = true
  shutdownClosed : s.shutdownClosed = true → s'.shutdownClosed = true

theorem SameControl.trans {s₁ s₂ s₃ : Sys} (h₁ : SameControl s₁ s₂) (h₂ : SameControl s₂ s₃) :
    SameControl s₁ s₃ where
  pc := h₂.pc.trans h₁.pc
  haConnections := h₂.haConnections.trans h₁.haConnections
  tunnelsWaiting := h₂.tunnelsWaiting.trans h₁.tunnelsWaiting
  tunnelsActive := h₂.tunnelsActive.trans h₁.tunnelsActive
  backoffTimer := h₂.backoffTimer.trans h₁.backoffTimer
  shuttingDown := h₂.shuttingDown.trans h₁.shuttingDown
  indices := h₂.indices.trans h₁.indices
  log := h₁.log.trans h₂.log
  ctxDone := h₂.ctxDone ∘ h₁.ctxDone
  shutdownClosed := h₂.shutdownClosed ∘ h₁.shutdownClosed

/-- Every field the invariants read is unchanged. -/
theorem sameControl_of_eq {s s' : Sys} (hpc : s'.pc = s.pc)
    (hha : s'.haConnections = s.haConnections) (hw : s'.tunnelsWaiting = s.tunnelsWaiting)
    (ha : s'.tunnelsActive = s.tunnelsActive) (hb : s'.backoffTimer = s.backoffTimer)
    (hsd : s'.shuttingDown = s.shuttingDown) (ht : s'.tasks = s.tasks) (hl : s'.log = s.log)
    (hx : s.ctxDone = true → s'.ctxDone = true)
    (hc : s.shutdownClosed = true → s'.shutdownClosed = true) : SameControl s s' :=
  ⟨hpc, hha, hw, ha, hb, hsd, by simp [indices, ht], hl ▸ .refl _, hx, hc⟩

/-- Logging an event that is neither a spawn nor a receipt. -/
theorem sameControl_logEvent (s : Sys) {e : Event} (he : e.isControl = false) :
    SameControl s (s.logEvent e) :=
  ⟨rfl, rfl, rfl, rfl, rfl, rfl, rfl, .snoc _ he, id, id⟩

theorem sameControl_setPhase {s : Sys} {n : Nat} {t : Task} (ht : s.tasks[n]? = some t)
    (ph : Phase) : SameControl s (s.setPhase n t ph) :=
  ⟨rfl, rfl, rfl, rfl, rfl, rfl, map_set_of_getElem? ht rfl, .refl _, id, id⟩

theorem sameControl_returnServe {s : Sys} {n : Nat} {t : Task} (ht : s.tasks[n]? = some t)
    (err : Option TunnelErr) (x : ServeExit) : SameControl s (s.returnServe n t err x) :=
  (sameControl_setPhase ht _).trans (sameControl_logEvent _ rfl)

theorem sameControl_setFallback (s : Sys) (i : Nat) (pf : ProtocolFallback) :
    SameControl s (s.setFallback i pf) :=
  sameControl_of_eq rfl rfl rfl rfl rfl rfl rfl rfl id id

@[simp] theorem logEvent_tasks (s : Sys) (e : Event) : (s.logEvent e).tasks = s.tasks := rfl
@[simp] theorem setFallback_tasks (s : Sys) (i : Nat) (pf : ProtocolFallback) :
    (s.setFallback i pf).tasks = s.tasks := rfl

/-- A step of a serving task leaves the control goroutine alone. Each case is a chain of the
lemmas above; the lookups of the task and the logged events are checked once the chain's
states are known. -/
theorem taskStep_sameControl {cfg : Config} {s s' : Sys} {n : Nat} {l : TaskLabel}
    (h : s.taskStep cfg n l = some s') : SameControl s s' := by
  unfold taskStep at h
  split at h
  · cases h
  rename_i t ht
  split at h <;> try dsimp only at h
  · split at h <;> cases h
    · exact (sameControl_logEvent _ (by rfl)).trans
        (sameControl_returnServe (by exact ht) _ _)
    · exact ((sameControl_logEvent _ (by rfl)).trans
        (sameControl_setPhase (by exact ht) _)).trans
          (sameControl_logEvent _ (by rfl))
  · cases h
    exact (sameControl_setPhase ht _).trans
      ⟨rfl, rfl, rfl, rfl, rfl, rfl, rfl, .snoc _ rfl, id, id⟩
  · have hh : ∀ h' : IPAddrFallback, SameControl s { s with edgeAddrHandler := h' } :=
      fun _ => sameControl_of_eq rfl rfl rfl rfl rfl rfl rfl rfl id id
    split_ifs at h <;> cases h
    · exact (hh _).trans (sameControl_returnServe (by exact ht) _ _)
    · exact (hh _).trans (sameControl_setPhase (by exact ht) _)
    · exact (hh _).trans (sameControl_returnServe (by exact ht) _ _)
  · split at h <;> cases h
    exact sameControl_returnServe ht _ _
  · split at h <;> cases h
    exact sameControl_returnServe ht _ _
  · split at h <;> cases h
    · exact ((sameControl_logEvent _ (by rfl)).trans
        (sameControl_setFallback _ _ _)).trans (sameControl_returnServe (by exact ht) _ _)
    · exact (sameControl_logEvent _ (by rfl)).trans
        (sameControl_returnServe (by exact ht) _ _)
  · split at h <;> cases h
    · exact (sameControl_setPhase ht _).trans
        (sameControl_logEvent _ (by rfl))
    · exact sameControl_setPhase ht _
  · cases h

/-- A step of the environment leaves the control goroutine alone. -/
theorem envStep_sameControl {s s' : Sys} {l : EnvLabel} (h : s.envStep l = some s') :
    SameControl s s' := by
  cases l with
  | cancel _ | closeShutdown =>
    dsimp only [envStep] at h
    split at h
    · cases h
    · cases h
      exact sameControl_of_eq rfl rfl rfl rfl rfl rfl rfl rfl (fun h => by first | rfl | exact h)
        (fun h => by first | rfl | exact h)
  | notify n =>
    dsimp only [envStep] at h
    split at h
    · cases h; exact sameControl_of_eq rfl rfl rfl rfl rfl rfl rfl rfl id id
    · cases h

/-! ### What the control goroutine leaves alone -/

/-- A step of the control goroutine keeps `gracefulShutdownC` as it is, sets `shuttingDown` only
once that channel is closed, and writes a protocol fallback only to seed it. -/
structure SupFrame (s s' : Sys) : Prop where
  shutdownClosed : s'.shutdownClosed = s.shutdownClosed
  shuttingDown : s'.shuttingDown = true → s.shuttingDown = true ∨ s.shutdownClosed = true
  fallback : ∀ i, s'.tunnelsProtocolFallback i = s.tunnelsProtocolFallback i ∨
    (s'.tunnelsProtocolFallback i).inFallback = false

theorem supFrame_of_eq {s s' : Sys} (hc : s'.shutdownClosed = s.shutdownClosed)
    (hsd : s'.shuttingDown = s.shuttingDown)
    (hpf : s'.tunnelsProtocolFallback = s.tunnelsProtocolFallback) : SupFrame s s' :=
  ⟨hc, fun h => .inl (hsd ▸ h), fun _ => .inl (hpf ▸ rfl)⟩

/-- Seeding the fallback of index `j`. -/
theorem supFrame_seed {s s' : Sys} (hc : s'.shutdownClosed = s.shutdownClosed)
    (hsd : s'.shuttingDown = s.shuttingDown) (j : Nat) (p : Protocol)
    (hpf : s'.tunnelsProtocolFallback =
      Function.update s.tunnelsProtocolFallback j (.seed p)) : SupFrame s s' := by
  refine ⟨hc, fun h => .inl (hsd ▸ h), fun i => ?_⟩
  by_cases hi : i = j <;> simp [hpf, Function.update_apply, hi, ProtocolFallback.seed]

theorem supFrame_receive {s : Sys} {n : Nat} {site : RecvSite} {r : Sys × Nat × Option TunnelErr}
    (h : s.receive n site = some r) : SupFrame s r.1 := by
  obtain ⟨t, -, -, -, h1⟩ := receive_eq_some h
  exact supFrame_of_eq (by rw [h1]) (by rw [h1]) (by rw [h1])

theorem SupFrame.trans {s₁ s₂ s₃ : Sys} (h₁ : SupFrame s₁ s₂) (h₂ : SupFrame s₂ s₃) :
    SupFrame s₁ s₃ where
  shutdownClosed := h₂.shutdownClosed.trans h₁.shutdownClosed
  shuttingDown h := (h₂.shuttingDown h).elim h₁.shuttingDown fun hc => .inr (h₁.shutdownClosed ▸ hc)
  fallback i := by
    rcases h₂.fallback i with h | h
    · rw [h]; exact h₁.fallback i
    · exact .inr h

/-- Every step of the control goroutine keeps its frame. -/
theorem supStep_supFrame {cfg : Config} {s s' : Sys} {l : SupLabel}
    (h : s.supStep cfg l = some s') : SupFrame s s' := by
  cases l with
  | initStart c =>
    simp only [supStep, Option.ite_none_right_eq_some, Option.some.injEq] at h
    obtain ⟨-, rfl⟩ := h
    exact supFrame_seed rfl rfl 0 c rfl
  | initDrain n =>
    obtain ⟨-, e, r, -, hr, rfl⟩ := supStep_initDrain h
    exact (supFrame_receive hr).trans (supFrame_of_eq rfl rfl rfl)
  | drainReceive n =>
    simp only [supStep, Option.ite_none_right_eq_some, Option.map_eq_some'] at h
    obtain ⟨-, r, hr, rfl⟩ := h
    exact (supFrame_receive hr).trans (supFrame_of_eq rfl rfl rfl)
  | initReceive n =>
    simp only [supStep, Option.ite_none_right_eq_some, Option.map_eq_some'] at h
    obtain ⟨-, r, hr, rfl⟩ := h
    refine (supFrame_receive hr).trans ?_
    split
    · exact supFrame_of_eq rfl rfl rfl
    · exact ⟨rfl, (fun h => nomatch h), fun _ => .inl rfl⟩
  | spawnSibling =>
    obtain ⟨i, -, -, rfl⟩ := supStep_spawnSibling h
    exact supFrame_seed rfl rfl i _ rfl
  | startLoop =>
    obtain ⟨i, -, -, rfl⟩ := supStep_startLoop h
    exact ⟨rfl, (fun h => nomatch h), fun _ => .inl rfl⟩
  | loopReceive n pick =>
    simp only [supStep, Option.ite_none_right_eq_some, Option.map_eq_some'] at h
    obtain ⟨-, r, hr, rfl⟩ := h
    refine (supFrame_receive hr).trans ?_
    rcases handleTunnelError_cases r.1 r.2.1 r.2.2 _ pick with ⟨h, -⟩ | h | h | ⟨h, -⟩ <;>
      rw [h] <;> exact supFrame_of_eq rfl rfl rfl
  | loopTimer =>
    simp only [supStep, Option.ite_none_right_eq_some, Option.some.injEq] at h
    obtain ⟨-, rfl⟩ := h
    obtain ⟨ts, c, ni, nc, ns, -, -, h⟩ := respawnWaiting_eq
      ({ s with backoffTimer := false }.logEvent (.timerFired s.tunnelsWaiting)) s.tunnelsWaiting
    simp only [fireBackoffTimer, h]
    exact supFrame_of_eq rfl rfl rfl
  | loopConnected pick =>
    obtain ⟨-, -, rfl⟩ := supStep_loopConnected h
    exact supFrame_of_eq rfl rfl rfl
  | loopShutdown =>
    simp only [supStep, Option.ite_none_right_eq_some, Option.some.injEq] at h
    obtain ⟨⟨-, hc⟩, rfl⟩ := h
    exact ⟨rfl, fun _ => .inr hc, fun _ => .inl rfl⟩
  | initCanceled | initShutdown | initConnected | loopCanceled | drainDone =>
    simp only [supStep, Option.ite_none_right_eq_some, Option.some.injEq] at h
    obtain ⟨-, rfl⟩ := h
    exact supFrame_of_eq rfl rfl rfl

/-! ### What the control goroutine never writes -/

/-- The context, `gracefulShutdownC`, the connected signals and the collaborators the serving
tasks share: the control goroutine reads them and writes none of them. -/
structure SupKeeps (s s' : Sys) : Prop where
  ctxDone : s'.ctxDone = s.ctxDone
  shutdownClosed : s'.shutdownClosed = s.shutdownClosed
  closedSignals : s'.closedSignals = s.closedSignals
  pendingNotify : s'.pendingNotify = s.pendingNotify
  edgeAddrHandler : s'.edgeAddrHandler = s.edgeAddrHandler
  connectedWith : s'.connectedWith = s.connectedWith

theorem SupKeeps.trans {s₁ s₂ s₃ : Sys} (h₁ : SupKeeps s₁ s₂) (h₂ : SupKeeps s₂ s₃) :
    SupKeeps s₁ s₃ where
  ctxDone := h₂.ctxDone.trans h₁.ctxDone
  shutdownClosed := h₂.shutdownClosed.trans h₁.shutdownClosed
  closedSignals := h₂.closedSignals.trans h₁.closedSignals
  pendingNotify := h₂.pendingNotify.trans h₁.pendingNotify
  edgeAddrHandler := h₂.edgeAddrHandler.trans h₁.edgeAddrHandler
  connectedWith := h₂.connectedWith.trans h₁.connectedWith

theorem supKeeps_receive {s : Sys} {n : Nat} {site : RecvSite} {r : Sys × Nat × Option TunnelErr}
    (h : s.receive n site = some r) : SupKeeps s r.1 := by
  obtain ⟨t, -, -, -, h1⟩ := receive_eq_some h
  rw [h1]
  exact ⟨rfl, rfl, rfl, rfl, rfl, rfl⟩

theorem supKeeps_respawnWaiting (s : Sys) (is : List Nat) : SupKeeps s (s.respawnWaiting is) := by
  obtain ⟨ts, c, ni, nc, ns, -, -, h⟩ := respawnWaiting_eq s is
  rw [h]
  exact ⟨rfl, rfl, rfl, rfl, rfl, rfl⟩

/-- Every step of the control goroutine keeps them. -/
theorem supStep_supKeeps {cfg : Config} {s s' : Sys} {l : SupLabel}
    (h : s.supStep cfg l = some s') : SupKeeps s s' := by
  cases l with
  | initDrain n =>
    obtain ⟨-, e, r, -, hr, rfl⟩ := supStep_initDrain h
    exact (supKeeps_receive hr).trans ⟨rfl, rfl, rfl, rfl, rfl, rfl⟩
  | drainReceive n | initReceive n =>
    simp only [supStep, Option.ite_none_right_eq_some, Option.map_eq_some'] at h
    obtain ⟨-, r, hr, rfl⟩ := h
    refine (supKeeps_receive hr).trans ?_
    try split
    all_goals exact ⟨rfl, rfl, rfl, rfl, rfl, rfl⟩
  | spawnSibling =>
    obtain ⟨i, -, -, rfl⟩ := supStep_spawnSibling h
    exact ⟨rfl, rfl, rfl, rfl, rfl, rfl⟩
  | startLoop =>
    obtain ⟨i, -, -, rfl⟩ := supStep_startLoop h
    exact ⟨rfl, rfl, rfl, rfl, rfl, rfl⟩
  | loopReceive n pick =>
    simp only [supStep, Option.ite_none_right_eq_some, Option.map_eq_some'] at h
    obtain ⟨-, r, hr, rfl⟩ := h
    refine (supKeeps_receive hr).trans ?_
    rcases handleTunnelError_cases r.1 r.2.1 r.2.2 _ pick with ⟨h, -⟩ | h | h | ⟨h, -⟩ <;>
      rw [h] <;> exact ⟨rfl, rfl, rfl, rfl, rfl, rfl⟩
  | loopTimer =>
    simp only [supStep, Option.ite_none_right_eq_some, Option.some.injEq] at h
    obtain ⟨-, rfl⟩ := h
    have h₀ := supKeeps_respawnWaiting
      ({ s with backoffTimer := false }.logEvent (.timerFired s.tunnelsWaiting)) s.tunnelsWaiting
    exact ⟨h₀.ctxDone, h₀.shutdownClosed, h₀.closedSignals, h₀.pendingNotify, h₀.edgeAddrHandler,
      h₀.connectedWith⟩
  | loopConnected pick =>
    obtain ⟨-, -, rfl⟩ := supStep_loopConnected h
    exact ⟨rfl, rfl, rfl, rfl, rfl, rfl⟩
  | initStart | initCanceled | initShutdown | initConnected | loopCanceled | drainDone
  | loopShutdown =>
    simp only [supStep, Option.ite_none_right_eq_some, Option.some.injEq] at h
    obtain ⟨-, rfl⟩ := h
    exact ⟨rfl, rfl, rfl, rfl, rfl, rfl⟩

end Sys

/-! ### After `initialize` -/

/-- The event loop, its drain, or after `Run` returned. -/
def SupPc.pastInit : SupPc → Bool
  | .loop | .drain | .exit _ => true
  | _ => false

namespace Sys

/-- Past `initialize`, a step of the control goroutine stays past it and writes neither
`HAConnections` nor a protocol fallback. -/
theorem supStep_pastInit {cfg : Config} {s s' : Sys} {l : SupLabel} (hpc : s.pc.pastInit)
    (h : s.supStep cfg l = some s') :
    s'.pc.pastInit ∧ s'.haConnections = s.haConnections ∧
      s'.tunnelsProtocolFallback = s.tunnelsProtocolFallback := by
  cases l with
  | initStart | initCanceled | initShutdown | initConnected =>
    simp only [supStep, Option.ite_none_right_eq_some, Option.some.injEq] at h
    obtain ⟨hg, -⟩ := h
    simp [hg, SupPc.pastInit] at hpc
  | initDrain n =>
    obtain ⟨hg, -⟩ := supStep_initDrain h
    simp [hg, SupPc.pastInit] at hpc
  | initReceive n =>
    simp only [supStep, Option.ite_none_right_eq_some, Option.map_eq_some'] at h
    obtain ⟨hg, -⟩ := h
    simp [hg, SupPc.pastInit] at hpc
  | spawnSibling =>
    obtain ⟨i, hg, -⟩ := supStep_spawnSibling h
    simp [hg, SupPc.pastInit] at hpc
  | startLoop =>
    obtain ⟨i, hg, -⟩ := supStep_startLoop h
    simp [hg, SupPc.pastInit] at hpc
  | loopCanceled | drainDone | loopShutdown =>
    simp only [supStep, Option.ite_none_right_eq_some, Option.some.injEq] at h
    obtain ⟨-, rfl⟩ := h
    exact ⟨by first | rfl | exact hpc, rfl, rfl⟩
  | drainReceive n =>
    simp only [supStep, Option.ite_none_right_eq_some, Option.map_eq_some'] at h
    obtain ⟨-, r, hr, rfl⟩ := h
    obtain ⟨t, -, -, -, h1⟩ := receive_eq_some hr
    rw [h1]
    exact ⟨hpc, rfl, rfl⟩
  | loopReceive n pick =>
    simp only [supStep, Option.ite_none_right_eq_some, Option.map_eq_some'] at h
    obtain ⟨-, r, hr, rfl⟩ := h
    obtain ⟨t, -, -, -, h1⟩ := receive_eq_some hr
    rcases handleTunnelError_cases r.1 r.2.1 r.2.2 _ pick with ⟨h, -⟩ | h | h | ⟨h, -⟩ <;>
      rw [h, h1] <;> exact ⟨by first | rfl | exact hpc, rfl, rfl⟩
  | loopTimer =>
    simp only [supStep, Option.ite_none_right_eq_some, Option.some.injEq] at h
    obtain ⟨-, rfl⟩ := h
    obtain ⟨ts, c, ni, nc, ns, -, -, h⟩ := respawnWaiting_eq
      ({ s with backoffTimer := false }.logEvent (.timerFired s.tunnelsWaiting)) s.tunnelsWaiting
    simp only [fireBackoffTimer, h]
    exact ⟨hpc, rfl, rfl⟩
  | loopConnected pick =>
    obtain ⟨-, -, rfl⟩ := supStep_loopConnected h
    exact ⟨hpc, rfl, rfl⟩

end Sys

end Cloudflared.Supervisor
