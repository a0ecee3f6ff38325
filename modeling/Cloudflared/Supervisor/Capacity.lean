import Cloudflared.Supervisor.Accounting

/-!
# How many tunnels run, and on which connection indices

`initialize` clamps `HAConnections` to the number of edge addresses and starts the indices
`0, …, HAConnections - 1`; after that the event loop restarts only indices it received from. So
in every reachable state every live or waiting index is below `HAConnections` after the clamp,
or is the first tunnel's `0` when that is below `1`, and since no index is live or waiting twice
there are never more than `max 1 HAConnections` of them (`tunnels_le_haConnections`). When
`HAConnections` is at most `256`, the `uint8` connection indices of the live tasks are then
pairwise distinct (`connIndex_nodup`); above `256` they are not (`connIndex_collides`).

## Main definitions

* `Sys.InRange`.

## Main results

* `tunnels_le_haConnections`, `connIndex_nodup`.
-/

namespace Cloudflared.Supervisor

namespace Sys

/-- The `HAConnections` the control loop reads, and the range of the indices it runs. -/
structure InRange (cfg : Config) (s : Sys) : Prop where
  ha : s.haConnections = if s.pc = .start then cfg.haConnections else cfg.clampedHA
  range : ∀ i ∈ s.indices ++ s.tunnelsWaiting, (i : Int) < max 1 cfg.clampedHA

variable {cfg : Config}

theorem InRange.sameControl {s s' : Sys} (hs : s.InRange cfg) (h : SameControl s s') :
    s'.InRange cfg :=
  ⟨by rw [h.haConnections, h.pc]; exact hs.ha, by rw [h.indices, h.tunnelsWaiting]; exact hs.range⟩

/-- A step of the control goroutine out of `initialize`'s start that keeps `HAConnections` and
runs indices it ran, or below `HAConnections`. -/
theorem InRange.of_ne_start {s s' : Sys} (hs : s.InRange cfg) (h₀ : s.pc ≠ .start)
    (h₁ : s'.pc ≠ .start) (hha : s'.haConnections = s.haConnections)
    (hr : ∀ i ∈ s'.indices ++ s'.tunnelsWaiting,
      i ∈ s.indices ++ s.tunnelsWaiting ∨ (i : Int) < s.haConnections) :
    s'.InRange cfg := by
  have hha' : s.haConnections = cfg.clampedHA := by rw [hs.ha, if_neg h₀]
  refine ⟨by rw [hha, hha', if_neg h₁], fun i hi => ?_⟩
  rcases hr i hi with hi | hi
  · exact hs.range i hi
  · exact lt_max_of_lt_right (hha' ▸ hi)

/-- A receipt takes an index out of the live ones. -/
theorem mem_of_receive {s : Sys} {n : Nat} {site : RecvSite} {r : Sys × Nat × Option TunnelErr}
    (hr : s.receive n site = some r) :
    r.2.1 ∈ s.indices ∧ ∀ i ∈ r.1.indices ++ r.1.tunnelsWaiting, i ∈ s.indices ++ s.tunnelsWaiting := by
  have hp := receive_indices_perm hr
  refine ⟨hp.mem_iff.2 (List.mem_cons_self _ _), fun i hi => ?_⟩
  rw [(receive_control hr).2.2.2.1] at hi
  rcases List.mem_append.1 hi with hi | hi
  · exact List.mem_append_left _ (hp.mem_iff.2 (List.mem_cons_of_mem _ hi))
  · exact List.mem_append_right _ hi

theorem InRange.of_supStep {s s' : Sys} {l : SupLabel} (hs : s.InRange cfg)
    (h : s.supStep cfg l = some s') : s'.InRange cfg := by
  cases l with
  | initStart =>
    simp only [supStep, Option.ite_none_right_eq_some, Option.some.injEq] at h
    obtain ⟨hpc, rfl⟩ := h
    have hha : s.haConnections = cfg.haConnections := by rw [hs.ha, if_pos hpc]
    refine ⟨by simp [hha, Config.clampedHA], fun i hi => ?_⟩
    simp only [indices_spawn, spawn_tunnelsWaiting, List.mem_append, List.mem_singleton] at hi
    rcases hi with (hi | rfl) | hi
    · exact hs.range i (List.mem_append_left _ hi)
    · exact lt_max_of_lt_left Int.zero_lt_one
    · exact hs.range i (List.mem_append_right _ hi)
  | initCanceled | initShutdown | initConnected | loopCanceled | drainDone | loopShutdown =>
    simp only [supStep, Option.ite_none_right_eq_some, Option.some.injEq] at h
    obtain ⟨hpc, rfl⟩ := h
    refine hs.of_ne_start ?_ ?_ rfl fun i hi => .inl hi <;> simp_all
  | initDrain n =>
    obtain ⟨hpc, e, r, -, hr, rfl⟩ := supStep_initDrain h
    have hc := receive_control hr
    exact hs.of_ne_start (by simp [hpc]) (by simp) hc.2.1 fun i hi =>
      .inl ((mem_of_receive hr).2 i hi)
  | drainReceive n =>
    simp only [supStep, Option.ite_none_right_eq_some, Option.map_eq_some'] at h
    obtain ⟨hpc, r, hr, rfl⟩ := h
    have hc := receive_control hr
    refine hs.of_ne_start ?_ ?_ hc.2.1 fun i hi => .inl ((mem_of_receive hr).2 i hi) <;> simp_all
  | initReceive n =>
    simp only [supStep, Option.ite_none_right_eq_some, Option.map_eq_some'] at h
    obtain ⟨hpc, r, hr, rfl⟩ := h
    have hc := receive_control hr
    have hm := (mem_of_receive hr).2
    split
    · exact hs.of_ne_start (by simp [hpc]) (by simp) hc.2.1 fun i hi => .inl (hm i hi)
    · refine hs.of_ne_start (by simp [hpc]) (by simp [enterLoop]) hc.2.1 fun i hi => .inl ?_
      change i ∈ r.1.indices ++ [] at hi
      exact hm i (List.mem_append_left _ (by simpa using hi))
  | spawnSibling =>
    obtain ⟨i, hpc, hlt, rfl⟩ := supStep_spawnSibling h
    refine hs.of_ne_start (by simp [hpc]) (by simp [spawnSiblingAt]) rfl fun j hj => ?_
    change j ∈ ((s.setFallback i _).startTunnel i).indices ++ s.tunnelsWaiting at hj
    simp only [indices_startTunnel, List.mem_append, List.mem_singleton] at hj
    rcases hj with (hj | rfl) | hj
    · exact .inl (List.mem_append_left _ hj)
    · exact .inr hlt
    · exact .inl (List.mem_append_right _ hj)
  | startLoop =>
    obtain ⟨i, hpc, -, rfl⟩ := supStep_startLoop h
    exact hs.of_ne_start (by simp [hpc]) (by simp [enterLoop]) rfl fun j hj =>
      .inl (List.mem_append_left _ (by simpa [enterLoop] using hj))
  | loopReceive n pick =>
    simp only [supStep, Option.ite_none_right_eq_some, Option.map_eq_some'] at h
    obtain ⟨hpc, r, hr, rfl⟩ := h
    obtain ⟨hj, hm⟩ := mem_of_receive hr
    have hc := receive_control hr
    have h₀ : s.pc ≠ .start := by simp [hpc]
    rcases handleTunnelError_cases r.1 r.2.1 r.2.2 _ pick with ⟨h, -⟩ | h | h | ⟨h, -⟩ <;>
      rw [h]
    · refine hs.of_ne_start h₀ (by simp [hc.1, hpc]) hc.2.1 fun i hi => .inl ?_
      change i ∈ (r.1.startTunnel r.2.1).indices ++ r.1.tunnelsWaiting at hi
      simp only [indices_startTunnel, List.mem_append, List.mem_singleton] at hi
      rcases hi with (hi | rfl) | hi
      · exact hm i (List.mem_append_left _ hi)
      · exact List.mem_append_left _ hj
      · exact hm i (List.mem_append_right _ hi)
    · refine hs.of_ne_start h₀ (by simp [hc.1, hpc]) hc.2.1 fun i hi => .inl ?_
      change i ∈ r.1.indices ++ (r.1.tunnelsWaiting ++ [r.2.1]) at hi
      simp only [List.mem_append, List.mem_singleton] at hi
      rcases hi with hi | hi | rfl
      · exact hm i (List.mem_append_left _ hi)
      · exact hm i (List.mem_append_right _ hi)
      · exact List.mem_append_left _ hj
    · exact hs.of_ne_start h₀ (by simp [hc.1, hpc]) hc.2.1 fun i hi => .inl (hm i hi)
    · exact hs.of_ne_start h₀ (by simp) hc.2.1 fun i hi => .inl (hm i hi)
  | loopTimer =>
    simp only [supStep, Option.ite_none_right_eq_some, Option.some.injEq] at h
    obtain ⟨⟨hpc, -⟩, rfl⟩ := h
    obtain ⟨ts, hix, ht, hw, -, hpc', hha, -⟩ := s.fireBackoffTimer_spec
    refine hs.of_ne_start (by simp [hpc]) (by simp [hpc', hpc]) hha fun i hi => .inl ?_
    simpa [Sys.indices, ht, hw, hix] using hi
  | loopConnected pick =>
    obtain ⟨hpc, -, rfl⟩ := supStep_loopConnected h
    exact hs.of_ne_start (by simp [hpc]) (by simp [hpc]) rfl fun i hi => .inl hi

theorem InRange.of_step {s s' : Sys} {l : Label} (hs : s.InRange cfg)
    (h : step cfg s l = some s') : s'.InRange cfg := by
  cases l with
  | env l => exact hs.sameControl (envStep_sameControl h)
  | sup l => exact hs.of_supStep h
  | task n l => exact hs.sameControl (taskStep_sameControl h)

end Sys

theorem inRange_of_reachable {cfg : Config} {s : Sys} (hs : Reachable cfg s) : s.InRange cfg := by
  induction hs with
  | init => exact ⟨by simp [Sys.init], nofun⟩
  | step l _ h ih => exact ih.of_step h

/-- In every reachable state, every live or waiting index is below `HAConnections` after the
clamp, or is `0`, and at most `max 1 HAConnections` indices are live or waiting. -/
theorem tunnels_le_haConnections {cfg : Config} {s : Sys} (hs : Reachable cfg s) :
    (∀ i ∈ s.indices ++ s.tunnelsWaiting, (i : Int) < max 1 cfg.clampedHA) ∧
      (s.indices ++ s.tunnelsWaiting).length ≤ (max 1 cfg.clampedHA).toNat := by
  have hr := (inRange_of_reachable hs).range
  refine ⟨hr, ?_⟩
  have hsub : s.indices ++ s.tunnelsWaiting ⊆ List.range (max 1 cfg.clampedHA).toNat :=
    fun i hi => List.mem_range.2 (by have := hr i hi; omega)
  simpa using ((accounting_of_reachable hs).books.nodup.subperm hsub).length_le

theorem tunnels_le_haConnections_queuedSecond :
    (∀ i ∈ queuedSecond.indices ++ queuedSecond.tunnelsWaiting,
        (i : Int) < max 1 twoTunnels.clampedHA) ∧
      (queuedSecond.indices ++ queuedSecond.tunnelsWaiting).length ≤
        (max 1 twoTunnels.clampedHA).toNat :=
  tunnels_le_haConnections queuedSecond_reachable

/-- `uint8` is injective below `256`. -/
theorem uint8_ofNat_inj {x y : Nat} (hx : x < 256) (hy : y < 256)
    (h : UInt8.ofNat x = UInt8.ofNat y) : x = y := by
  have := congrArg UInt8.toNat h
  change x % 256 = y % 256 at this
  omega

/-- With `HAConnections` at most `256` after the clamp, the live tasks call `Serve` with pairwise
distinct `uint8` connection indices. -/
theorem connIndex_nodup {cfg : Config} (hha : cfg.clampedHA ≤ 256) {s : Sys}
    (hs : Reachable cfg s) : (s.tasks.map Task.connIndex).Nodup := by
  have hr := (inRange_of_reachable hs).range
  have hlt : ∀ i ∈ s.indices, i < 256 := fun i hi => by
    have := hr i (List.mem_append_left _ hi)
    omega
  have hnd : s.indices.Nodup :=
    (accounting_of_reachable hs).books.nodup.sublist (List.sublist_append_left _ _)
  have hmap : s.tasks.map Task.connIndex = s.indices.map UInt8.ofNat := by
    simp [Sys.indices, Task.connIndex, Function.comp_def]
  rw [hmap]
  exact hnd.map_on fun x hx y hy h => uint8_ofNat_inj (hlt x hx) (hlt y hy) h

theorem connIndex_nodup_queuedSecond :
    twoTunnels.clampedHA ≤ 256 ∧ (queuedSecond.tasks.map Task.connIndex).Nodup :=
  ⟨by decide, connIndex_nodup (by decide) queuedSecond_reachable⟩

end Cloudflared.Supervisor
