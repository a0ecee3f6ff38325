import Cloudflared.Supervisor.Accounting

/-!
# What the control loop receives

A serving task hands the error `Serve` returned to the control goroutine: `startTunnel` sends it
at once, `startFirstTunnel` after deciding not to call `Serve` again. Nothing on the way changes
it, and the task of an index is the only one live for it, so every `tunnelError` received from
index `i` carries the error the latest `Serve` on `i` returned before the receipt
(`received_carries_last_return`).

The latest return is read off the log (`lastReturn`), so these are statements about every
interleaving of the tasks and the control goroutine.

## Main definitions

* `Event.returnOf`, `lastReturn`, `ReceiptsCarry`, `Phase.carried`, `Sys.ServeBooks`.

## Main results

* `serveBooks_of_reachable`, `received_carries_last_return`.
-/

namespace Cloudflared.Supervisor

/-- The error of the event, if it records the return of `Serve` on index `i`. -/
def Event.returnOf (i : Nat) : Event → Option (Option TunnelErr)
  | .serveReturned j err _ => if j = i then some err else none
  | _ => none

/-- The error the latest `Serve` on index `i` in the log returned. -/
def lastReturn (i : Nat) (log : List Event) : Option (Option TunnelErr) :=
  log.reverse.findSome? (Event.returnOf i)

theorem lastReturn_snoc (i : Nat) (log : List Event) (e : Event) :
    lastReturn i (log ++ [e]) = (e.returnOf i).or (lastReturn i log) := by
  simp only [lastReturn, List.reverse_append, List.reverse_singleton, List.singleton_append,
    List.findSome?_cons]
  cases e.returnOf i <;> rfl

theorem lastReturn_snoc_of_none {i : Nat} (log : List Event) {e : Event}
    (he : e.returnOf i = none) : lastReturn i (log ++ [e]) = lastReturn i log := by
  rw [lastReturn_snoc, he]
  rfl

@[simp] theorem returnOf_serveReturned_self (i : Nat) (err : Option TunnelErr) (ex : ServeExit) :
    (Event.serveReturned i err ex).returnOf i = some err := by
  simp [Event.returnOf]

theorem returnOf_serveReturned_of_ne {i j : Nat} (h : j ≠ i) (err : Option TunnelErr)
    (ex : ServeExit) : (Event.serveReturned j err ex).returnOf i = none := by
  simp [Event.returnOf, h]

/-- The event is neither a return of `Serve` nor a receipt. -/
def Event.quiet : Event → Bool
  | .serveReturned .. | .received .. => false
  | _ => true

theorem Event.returnOf_of_quiet {e : Event} (he : e.quiet = true) (i : Nat) : e.returnOf i = none := by
  cases e <;> first | rfl | cases he

theorem Event.ne_received_of_quiet {e : Event} (he : e.quiet = true) (i : Nat)
    (err : Option TunnelErr) (site : RecvSite) : e ≠ .received i err site := by
  rintro rfl
  cases he

/-! ### Receipts in a log -/

/-- Every receipt in the log carries the error of the latest return of `Serve` on its index
before it. -/
def ReceiptsCarry (log : List Event) : Prop :=
  ∀ l₁ l₂ i err site, log = l₁ ++ Event.received i err site :: l₂ → lastReturn i l₁ = some err

/-- A position in a log with one more event is the new event or a position in the log. -/
theorem eq_append_cons_of_snoc {log l₁ l₂ : List Event} {e x : Event}
    (h : log ++ [e] = l₁ ++ x :: l₂) :
    (l₁ = log ∧ x = e) ∨ ∃ l₂', log = l₁ ++ x :: l₂' := by
  rcases List.eq_nil_or_concat l₂ with rfl | ⟨l₂', y, rfl⟩
  · obtain ⟨h₁, h₂⟩ := List.append_inj' h rfl
    exact .inl ⟨h₁.symm, (List.singleton_inj.1 h₂).symm⟩
  · rw [List.concat_eq_append, ← List.cons_append, ← List.append_assoc] at h
    exact .inr ⟨l₂', (List.append_inj' h rfl).1⟩

theorem ReceiptsCarry.snoc {log : List Event} (h : ReceiptsCarry log) {e : Event}
    (he : ∀ i err site, e = .received i err site → lastReturn i log = some err) :
    ReceiptsCarry (log ++ [e]) := by
  intro l₁ l₂ i err site hlog
  rcases eq_append_cons_of_snoc hlog with ⟨rfl, hx⟩ | ⟨l₂', hl⟩
  · exact he i err site hx.symm
  · exact h l₁ l₂' i err site hl

/-! ### The invariant -/

/-- The error a task carries once `Serve` returned to it, in `startFirstTunnel`'s loop or at its
send. -/
def Phase.carried : Phase → Option (Option TunnelErr)
  | .returned err | .send err => some err
  | _ => none

namespace Sys

/-- What the tasks and the log say about the errors on their way to the control goroutine. -/
structure ServeBooks (s : Sys) : Prop where
  /-- A task carries the error the latest `Serve` on its index returned. -/
  carried : ∀ t ∈ s.tasks, ∀ err, t.phase.carried = some err → lastReturn t.index s.log = some err
  receipts : ReceiptsCarry s.log

/-- A step that changes neither the tasks nor the log. -/
theorem ServeBooks.of_same {s s' : Sys} (hs : s.ServeBooks) (ht : s'.tasks = s.tasks)
    (hl : s'.log = s.log) : s'.ServeBooks where
  carried t hm := by rw [hl]; exact hs.carried t (ht ▸ hm)
  receipts := hl ▸ hs.receipts

/-- Logging an event that is neither a return of `Serve` nor a receipt. -/
theorem ServeBooks.logEvent {s : Sys} (hs : s.ServeBooks) {e : Event} (he : e.quiet = true) :
    (s.logEvent e).ServeBooks where
  carried t hm err hc := by
    show lastReturn t.index (s.log ++ [e]) = some err
    rw [lastReturn_snoc_of_none _ (Event.returnOf_of_quiet he _)]
    exact hs.carried t hm err hc
  receipts :=
    hs.receipts.snoc fun i err site h => absurd h (Event.ne_received_of_quiet he i err site)

theorem ServeBooks.setFallback {s : Sys} (hs : s.ServeBooks) (i : Nat) (pf : ProtocolFallback) :
    (s.setFallback i pf).ServeBooks :=
  hs.of_same rfl rfl

/-- A task moves to a phase that carries nothing, or what it carried. -/
theorem ServeBooks.setPhase {s : Sys} (hs : s.ServeBooks) {n : Nat} {t : Task}
    (ht : s.tasks[n]? = some t) {ph : Phase} (hph : ph.carried = none ∨ ph.carried = t.phase.carried) :
    (s.setPhase n t ph).ServeBooks where
  carried x hm err hc := by
    rcases List.mem_or_eq_of_mem_set hm with hm | rfl
    · exact hs.carried x hm err hc
    · rcases hph with h | h
      · simp [h] at hc
      · exact hs.carried t (List.getElem?_mem ht) err (h ▸ hc)
  receipts := hs.receipts

/-- `Serve` returns to the task at `n`: the task carries the error the log now records as the
latest return of its index, which no other live task has. -/
theorem ServeBooks.returnServe {s : Sys} (hs : s.ServeBooks) (hnd : s.indices.Nodup) {n : Nat}
    {t : Task} (ht : s.tasks[n]? = some t) (err : Option TunnelErr) (ex : ServeExit) :
    (s.returnServe n t err ex).ServeBooks where
  carried := by
    refine forall_mem_set_of_nodup ht (show (s.tasks.map Task.index).Nodup from hnd) ?_
      fun x hx hi err' hc => ?_
    · intro err' hc
      have : err' = err := by
        by_cases hf : t.first <;> simp only [hf, Phase.carried, if_true, if_false] at hc <;>
          exact (Option.some.inj hc).symm
      show lastReturn t.index (s.log ++ [.serveReturned t.index err ex]) = some err'
      rw [this, lastReturn_snoc, returnOf_serveReturned_self]
      rfl
    · show lastReturn x.index (s.log ++ [.serveReturned t.index err ex]) = some err'
      rw [lastReturn_snoc_of_none _ (returnOf_serveReturned_of_ne (Ne.symm hi) _ _)]
      exact hs.carried x hx err' hc
  receipts := hs.receipts.snoc nofun

theorem ServeBooks.spawn {s : Sys} (hs : s.ServeBooks) {t : Task} (hph : t.phase = .call) :
    (s.spawn t).ServeBooks where
  carried x hm err hc := by
    rw [spawn_log,
      lastReturn_snoc_of_none _ (show (Event.spawned t.index).returnOf x.index = none from rfl)]
    rcases List.mem_append.1 hm with hm | hm
    · exact hs.carried x hm err hc
    · rw [List.mem_singleton.1 hm, hph] at hc
      cases hc
  receipts := hs.receipts.snoc nofun

theorem ServeBooks.startTunnel {s : Sys} (hs : s.ServeBooks) (i : Nat) :
    (s.startTunnel i).ServeBooks :=
  (hs.of_same rfl rfl : (s.newConnectedTunnelSignal i).1.ServeBooks).spawn rfl

theorem ServeBooks.respawnWaiting {s : Sys} (hs : s.ServeBooks) :
    ∀ is : List Nat, (s.respawnWaiting is).ServeBooks
  | [] => hs
  | i :: is => (hs.startTunnel i).respawnWaiting is

/-- A receipt takes a task at its send out and logs what it carried. -/
theorem ServeBooks.receive {s : Sys} (hs : s.ServeBooks) {n : Nat} {site : RecvSite}
    {r : Sys × Nat × Option TunnelErr} (hr : s.receive n site = some r) :
    r.1.ServeBooks ∧ r.1.log = s.log ++ [.received r.2.1 r.2.2 site] := by
  obtain ⟨t, ht, hph, hi, h1⟩ := receive_eq_some hr
  have hl : r.1.log = s.log ++ [.received r.2.1 r.2.2 site] := by rw [h1, hi]
  refine ⟨⟨fun x hm err hc => ?_, hl ▸ hs.receipts.snoc fun i err site he => ?_⟩, hl⟩
  · rw [hl, lastReturn_snoc_of_none _
      (show (Event.received r.2.1 r.2.2 site).returnOf x.index = none from rfl)]
    rw [h1] at hm
    exact hs.carried x (List.mem_of_mem_eraseIdx hm) err hc
  · simp only [Event.received.injEq] at he
    obtain ⟨rfl, rfl, -⟩ := he
    rw [hi]
    exact hs.carried t (List.getElem?_mem ht) _ (by rw [hph]; rfl)

/-! ### The steps of `Run` -/

theorem ServeBooks.of_taskStep {cfg : Config} {s s' : Sys} {n : Nat} {l : TaskLabel}
    (hs : s.ServeBooks) (hnd : s.indices.Nodup) (h : s.taskStep cfg n l = some s') :
    s'.ServeBooks := by
  unfold taskStep at h
  split at h
  · cases h
  rename_i t ht
  split at h <;> try dsimp only at h
  · split at h <;> cases h
    · exact (hs.logEvent (by rfl)).returnServe hnd (by exact ht) _ _
    · exact ((hs.logEvent (by rfl)).setPhase (by exact ht) (.inl (by rfl))).logEvent (by rfl)
  · cases h
    refine ServeBooks.logEvent ?_ (by rfl)
    exact ((hs.setPhase ht (.inl (by rfl))).setFallback t.index
      (s.tunnelsProtocolFallback t.index).reset).of_same rfl rfl
  · rename_i proto _ a _ _
    have hh : { s with edgeAddrHandler := (s.edgeAddrHandler.shouldGetNewAddress t.connIndex
        (serveTunnel proto a).1).2 }.ServeBooks :=
      hs.of_same rfl rfl
    split_ifs at h <;> cases h
    · exact hh.returnServe hnd (by exact ht) _ _
    · exact hh.setPhase (by exact ht) (.inl (by rfl))
    · exact hh.returnServe hnd (by exact ht) _ _
  · split at h <;> cases h
    exact hs.returnServe hnd ht _ _
  · split at h <;> cases h
    exact hs.returnServe hnd ht _ _
  · split at h <;> cases h
    · exact ((hs.logEvent (by rfl)).setFallback _ _).returnServe hnd (by exact ht) _ _
    · exact (hs.logEvent (by rfl)).returnServe hnd (by exact ht) _ _
  · rename_i heq
    split at h <;> cases h
    · exact (hs.setPhase ht (.inl (by rfl))).logEvent (by rfl)
    · exact hs.setPhase ht (.inr (by rw [heq]; rfl))
  · cases h

theorem ServeBooks.of_envStep {s s' : Sys} {l : EnvLabel} (hs : s.ServeBooks)
    (h : s.envStep l = some s') : s'.ServeBooks := by
  cases l <;> dsimp only [envStep] at h <;> split at h <;> cases h <;>
    exact hs.of_same rfl rfl

theorem ServeBooks.of_supStep {cfg : Config} {s s' : Sys} {l : SupLabel} (hs : s.ServeBooks)
    (h : s.supStep cfg l = some s') : s'.ServeBooks := by
  cases l with
  | initStart =>
    simp only [supStep, Option.ite_none_right_eq_some, Option.some.injEq] at h
    obtain ⟨-, rfl⟩ := h
    refine ServeBooks.spawn ?_ rfl
    exact hs.of_same rfl rfl
  | initCanceled | initShutdown | initConnected | loopCanceled | drainDone | loopShutdown =>
    simp only [supStep, Option.ite_none_right_eq_some, Option.some.injEq] at h
    obtain ⟨-, rfl⟩ := h
    exact hs.of_same rfl rfl
  | initDrain n =>
    obtain ⟨-, e, r, -, hr, rfl⟩ := supStep_initDrain h
    exact (hs.receive hr).1.of_same rfl rfl
  | drainReceive n | initReceive n =>
    simp only [supStep, Option.ite_none_right_eq_some, Option.map_eq_some'] at h
    obtain ⟨-, r, hr, rfl⟩ := h
    try split
    all_goals exact (hs.receive hr).1.of_same rfl rfl
  | spawnSibling =>
    obtain ⟨i, -, -, rfl⟩ := supStep_spawnSibling h
    exact ((hs.setFallback i _).startTunnel i).of_same rfl rfl
  | startLoop =>
    obtain ⟨i, -, -, rfl⟩ := supStep_startLoop h
    exact hs.of_same rfl rfl
  | loopReceive n pick =>
    simp only [supStep, Option.ite_none_right_eq_some, Option.map_eq_some'] at h
    obtain ⟨-, r, hr, rfl⟩ := h
    have h₁ : { r.1 with tunnelsActive := r.1.tunnelsActive - 1 }.ServeBooks :=
      (hs.receive hr).1.of_same rfl rfl
    rcases handleTunnelError_cases r.1 r.2.1 r.2.2 _ pick with ⟨h, -⟩ | h | h | ⟨h, -⟩ <;>
      rw [h]
    · exact (h₁.startTunnel r.2.1).of_same rfl rfl
    all_goals exact h₁.of_same rfl rfl
  | loopTimer =>
    simp only [supStep, Option.ite_none_right_eq_some, Option.some.injEq] at h
    obtain ⟨-, rfl⟩ := h
    have h₀ : ({ s with backoffTimer := false }.logEvent (.timerFired s.tunnelsWaiting)).ServeBooks :=
      (hs.of_same rfl rfl : { s with backoffTimer := false }.ServeBooks).logEvent (by rfl)
    exact (h₀.respawnWaiting s.tunnelsWaiting).of_same rfl rfl
  | loopConnected pick =>
    obtain ⟨-, -, rfl⟩ := supStep_loopConnected h
    exact hs.of_same rfl rfl

theorem ServeBooks.of_step {cfg : Config} {s s' : Sys} {l : Label} (ha : s.Accounting)
    (hs : s.ServeBooks) (h : step cfg s l = some s') : s'.ServeBooks := by
  cases l with
  | env l => exact hs.of_envStep h
  | sup l => exact hs.of_supStep h
  | task n l =>
    exact hs.of_taskStep (ha.books.nodup.sublist (List.sublist_append_left _ _)) h

end Sys

theorem serveBooks_of_reachable {cfg : Config} {s : Sys} (hs : Reachable cfg s) :
    s.ServeBooks := by
  induction hs with
  | init => exact ⟨nofun, fun l₁ _ _ _ _ h => (by cases l₁ <;> cases h)⟩
  | step l hr h ih => exact ih.of_step (accounting_of_reachable hr) h

/-- Every `tunnelError` the control goroutine receives from index `i` carries the error that the
latest `Serve` on `i` before the receipt returned. -/
theorem received_carries_last_return {cfg : Config} {s : Sys} (hs : Reachable cfg s)
    {l₁ l₂ : List Event} {i : Nat} {err : Option TunnelErr} {site : RecvSite}
    (h : s.log = l₁ ++ Event.received i err site :: l₂) : lastReturn i l₁ = some err :=
  (serveBooks_of_reachable hs).receipts l₁ l₂ i err site h

theorem received_carries_last_return_queuedSecond :
    lastReturn 1 [.spawned 0, .serveCalled 0, .attempted 0 .quic, .connected 0 .quic, .spawned 1,
        .serveCalled 1, .attempted 1 .quic, .backoffFired 1,
        .serveReturned 1 (some (.dial "dial tcp: i/o timeout")) .backoff] =
      some (some (.dial "dial tcp: i/o timeout")) :=
  received_carries_last_return queuedSecond_reachable
    (show queuedSecond.log =
      [.spawned 0, .serveCalled 0, .attempted 0 .quic, .connected 0 .quic, .spawned 1,
        .serveCalled 1, .attempted 1 .quic, .backoffFired 1,
        .serveReturned 1 (some (.dial "dial tcp: i/o timeout")) .backoff] ++
        .received 1 (some (.dial "dial tcp: i/o timeout")) .loopSelect :: [] from rfl)

end Cloudflared.Supervisor
