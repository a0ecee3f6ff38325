import Cloudflared.Supervisor.Frame

/-!
# The signals of connecting tunnels

`newConnectedTunnelSignal(i)` records a fresh channel for `i` in `tunnelsConnecting` and makes it
the next signal the event loop waits for. `waitForNextTunnel(j)` deletes `j`, clears the signal,
and waits next for the first entry Go's map iteration yields (`pick`). Over every sequence of the
two calls, for any indices, from an empty map and a nil signal, the map has one entry per index,
`nextConnectedSignal` is nil exactly when the map is empty and is otherwise the entry of
`nextConnectedIndex`, and `waitForNextTunnel(j)` leaves the map without `j` and reports whether
that map is non-empty (`connecting_bookkeeping`). No assumption on the indices or on the order of
the map is needed.

Every step of `Run` changes the three fields through these two calls only, so the bookkeeping
holds in every reachable state (`connectingOK_of_reachable`): when the loop's
`nextConnectedSignal` case fires, the index it hands to `waitForNextTunnel` is the one whose
channel closed (`nextConnected_mem`).

## Main definitions

* `ConnectingBooks`, `Sys.ConnectingOK`: the bookkeeping.
* `ConnCall`, `runConnCalls`: sequences of the two calls.

## Main results

* `connecting_bookkeeping`, `connectingOK_of_reachable`, `nextConnected_mem`.
-/

namespace Cloudflared.Supervisor

/-- With one entry per index, the entry of an index is the value it is listed with. -/
theorem lookup_of_mem_nodup :
    ∀ {l : List (Nat × Nat)} {k v : Nat}, (l.map (·.1)).Nodup → (k, v) ∈ l → l.lookup k = some v
  | [], _, _, _, h => nomatch h
  | (k', v') :: l, k, v, hnd, h => by
    simp only [List.map_cons, List.nodup_cons] at hnd
    rcases List.mem_cons.1 h with h | h
    · cases h
      simp
    · have hk : k ≠ k' := fun hk => hnd.1 (hk ▸ List.mem_map_of_mem (·.1) h)
      rw [List.lookup_cons, beq_eq_false_iff_ne.2 hk]
      exact lookup_of_mem_nodup hnd.2 h

/-- Deleting an index keeps one entry per index. -/
theorem nodup_filter_index {l : List (Nat × Nat)} (h : (l.map (·.1)).Nodup) (j : Nat) :
    ((l.filter (·.1 ≠ j)).map (·.1)).Nodup :=
  h.sublist ((List.filter_sublist l).map _)

/-- The bookkeeping of connecting tunnels: one entry per index; the next signal is nil exactly
when there is no entry, and otherwise the entry of the next index. -/
structure ConnectingBooks (connecting : List (Nat × Nat)) (nextIndex : Nat)
    (nextSignal : Option Nat) : Prop where
  nodup : (connecting.map (·.1)).Nodup
  signal_eq_none : nextSignal = none ↔ connecting = []
  lookup_next : connecting ≠ [] → connecting.lookup nextIndex = nextSignal

namespace Sys

/-- The bookkeeping of `tunnelsConnecting`, `nextConnectedIndex` and `nextConnectedSignal`. -/
def ConnectingOK (s : Sys) : Prop :=
  ConnectingBooks s.tunnelsConnecting s.nextConnectedIndex s.nextConnectedSignal

/-- The bookkeeping reads the three fields only. -/
theorem ConnectingOK.of_eq {s s' : Sys} (h : s.ConnectingOK)
    (h₁ : s'.tunnelsConnecting = s.tunnelsConnecting)
    (h₂ : s'.nextConnectedIndex = s.nextConnectedIndex)
    (h₃ : s'.nextConnectedSignal = s.nextConnectedSignal) : s'.ConnectingOK := by
  unfold ConnectingOK
  rw [h₁, h₂, h₃]
  exact h

theorem connectingOK_of_empty {s : Sys} (hc : s.tunnelsConnecting = [])
    (hn : s.nextConnectedSignal = none) : s.ConnectingOK :=
  ⟨by simp [hc], by simp [hc, hn], fun h => absurd hc h⟩

/-- `newConnectedTunnelSignal(i)` replaces the entry of `i` and waits for it next. -/
theorem ConnectingOK.newConnectedTunnelSignal {s : Sys} (h : s.ConnectingOK) (i : Nat) :
    (s.newConnectedTunnelSignal i).1.ConnectingOK := by
  refine ⟨?_, by simp [Sys.newConnectedTunnelSignal], fun _ => by
    simp [Sys.newConnectedTunnelSignal]⟩
  simp only [Sys.newConnectedTunnelSignal, List.map_cons, List.nodup_cons]
  exact ⟨by simp, nodup_filter_index h.nodup i⟩

/-- `waitForNextTunnel(j)` deletes `j`; with entries left it waits next for one of them and
returns `true`, and otherwise it clears the signal and returns `false`. -/
theorem waitForNextTunnel_spec (s : Sys) (j pick : Nat) :
    (s.waitForNextTunnel j pick).1.tunnelsConnecting = s.tunnelsConnecting.filter (·.1 ≠ j) ∧
      ((s.waitForNextTunnel j pick).1.tunnelsConnecting = [] ∧
          (s.waitForNextTunnel j pick).1.nextConnectedSignal = none ∧
          (s.waitForNextTunnel j pick).2 = false ∨
        ∃ p ∈ (s.waitForNextTunnel j pick).1.tunnelsConnecting,
          (s.waitForNextTunnel j pick).1.nextConnectedIndex = p.1 ∧
          (s.waitForNextTunnel j pick).1.nextConnectedSignal = some p.2 ∧
          (s.waitForNextTunnel j pick).2 = true) := by
  refine ⟨rfl, ?_⟩
  simp only [waitForNextTunnel]
  generalize s.tunnelsConnecting.filter (·.1 ≠ j) = rest
  by_cases hr : rest = []
  · subst hr
    simp
  · have hlt := Nat.mod_lt pick (List.length_pos.2 hr)
    refine .inr ⟨_, List.getElem_mem hlt, ?_⟩
    simp [List.getElem?_eq_getElem hlt]

theorem waitForNextTunnel_snd (s : Sys) (j pick : Nat) :
    (s.waitForNextTunnel j pick).2 = true ↔
      (s.waitForNextTunnel j pick).1.tunnelsConnecting ≠ [] := by
  rcases (waitForNextTunnel_spec s j pick).2 with ⟨hnil, -, hret⟩ | ⟨p, hp, -, -, hret⟩
  · simp [hnil, hret]
  · simpa [hret] using List.ne_nil_of_mem hp

theorem ConnectingOK.waitForNextTunnel {s : Sys} (h : s.ConnectingOK) (j pick : Nat) :
    (s.waitForNextTunnel j pick).1.ConnectingOK := by
  obtain ⟨hrest, hcases⟩ := waitForNextTunnel_spec s j pick
  have hnd : ((s.waitForNextTunnel j pick).1.tunnelsConnecting.map (·.1)).Nodup :=
    hrest ▸ nodup_filter_index h.nodup j
  rcases hcases with ⟨hnil, hsig, -⟩ | ⟨p, hp, hidx, hsig, -⟩
  · exact ⟨hnd, by simp [hnil, hsig], fun hne => absurd hnil hne⟩
  · refine ⟨hnd, by simpa [hsig] using List.ne_nil_of_mem hp, fun _ => ?_⟩
    rw [hidx, hsig]
    exact lookup_of_mem_nodup hnd hp

end Sys

/-- A call of `newConnectedTunnelSignal(index)`, or of `waitForNextTunnel(index)` with Go's map
iteration yielding the entry at `pick` first. -/
inductive ConnCall where
  | newSignal (index : Nat)
  | waitNext (index pick : Nat)
  deriving DecidableEq, Repr

/-- The state after one call. -/
def ConnCall.apply (s : Sys) : ConnCall → Sys
  | newSignal i => (s.newConnectedTunnelSignal i).1
  | waitNext j pick => (s.waitForNextTunnel j pick).1

/-- The state after a sequence of calls. -/
def runConnCalls (s : Sys) (cs : List ConnCall) : Sys := cs.foldl ConnCall.apply s

theorem Sys.ConnectingOK.runConnCalls {s : Sys} (h : s.ConnectingOK) :
    ∀ cs : List ConnCall, (Supervisor.runConnCalls s cs).ConnectingOK
  | [] => h
  | .newSignal i :: cs => (h.newConnectedTunnelSignal i).runConnCalls cs
  | .waitNext j pick :: cs => (h.waitForNextTunnel j pick).runConnCalls cs

/-- Over every sequence of `newConnectedTunnelSignal` and `waitForNextTunnel` calls from an empty
`tunnelsConnecting` and a nil `nextConnectedSignal`, the signal is nil exactly when the map is
empty, and otherwise it is the map's entry of `nextConnectedIndex`; a further
`waitForNextTunnel(j)` leaves the map without `j`, and returns `true` exactly when that map is
non-empty. -/
theorem connecting_bookkeeping {s : Sys} (hc : s.tunnelsConnecting = [])
    (hn : s.nextConnectedSignal = none) (cs : List ConnCall) :
    let s' := runConnCalls s cs
    (s'.nextConnectedSignal = none ↔ s'.tunnelsConnecting = []) ∧
      (s'.tunnelsConnecting ≠ [] →
        s'.tunnelsConnecting.lookup s'.nextConnectedIndex = s'.nextConnectedSignal) ∧
      ∀ j pick, (s'.waitForNextTunnel j pick).1.tunnelsConnecting =
          s'.tunnelsConnecting.filter (·.1 ≠ j) ∧
        ((s'.waitForNextTunnel j pick).2 = true ↔ s'.tunnelsConnecting.filter (·.1 ≠ j) ≠ []) := by
  have h := (Sys.connectingOK_of_empty hc hn).runConnCalls cs
  refine ⟨h.signal_eq_none, h.lookup_next, fun j pick => ?_⟩
  have hrest := (Sys.waitForNextTunnel_spec (runConnCalls s cs) j pick).1
  exact ⟨hrest, hrest ▸ Sys.waitForNextTunnel_snd _ j pick⟩

/-- Two calls for indices `1` and `2`, then the loop's case for the signal of `1`. -/
def twoSignals : List ConnCall := [.newSignal 1, .newSignal 2, .waitNext 1 0]

theorem connecting_bookkeeping_twoSignals :
    (Sys.init ⟨2, 4, false, 5⟩).tunnelsConnecting = [] ∧
      (Sys.init ⟨2, 4, false, 5⟩).nextConnectedSignal = none ∧
      let s' := runConnCalls (Sys.init ⟨2, 4, false, 5⟩) twoSignals
      (s'.nextConnectedSignal = none ↔ s'.tunnelsConnecting = []) ∧
        (s'.tunnelsConnecting ≠ [] →
          s'.tunnelsConnecting.lookup s'.nextConnectedIndex = s'.nextConnectedSignal) ∧
        ∀ j pick, (s'.waitForNextTunnel j pick).1.tunnelsConnecting =
            s'.tunnelsConnecting.filter (·.1 ≠ j) ∧
          ((s'.waitForNextTunnel j pick).2 = true ↔ s'.tunnelsConnecting.filter (·.1 ≠ j) ≠ []) :=
  ⟨rfl, rfl, connecting_bookkeeping rfl rfl twoSignals⟩

/-! ### The bookkeeping along the steps of `Run` -/

namespace Sys

theorem ConnectingOK.startTunnel {s : Sys} (h : s.ConnectingOK) (i : Nat) :
    (s.startTunnel i).ConnectingOK :=
  h.newConnectedTunnelSignal i

theorem ConnectingOK.respawnWaiting {s : Sys} (h : s.ConnectingOK) :
    ∀ is : List Nat, (s.respawnWaiting is).ConnectingOK
  | [] => h
  | i :: is => (h.startTunnel i).respawnWaiting is

theorem ConnectingOK.receive {s : Sys} (h : s.ConnectingOK) {n : Nat} {site : RecvSite}
    {r : Sys × Nat × Option TunnelErr} (hr : s.receive n site = some r) : r.1.ConnectingOK := by
  obtain ⟨t, -, -, -, h1⟩ := receive_eq_some hr
  rw [h1]
  exact h

/-- A serving task never touches the three fields. -/
theorem ConnectingOK.of_taskStep {cfg : Config} {s s' : Sys} {n : Nat} {l : TaskLabel}
    (hs : s.ConnectingOK) (h : s.taskStep cfg n l = some s') : s'.ConnectingOK := by
  unfold taskStep at h
  split at h
  · cases h
  split at h <;> try dsimp only at h
  all_goals first | cases h | (split at h <;> cases h) | (split_ifs at h <;> cases h)
  all_goals
    dsimp only [ConnectingOK, returnServe, setPhase, logEvent, setFallback]
    exact hs

theorem ConnectingOK.of_envStep {s s' : Sys} {l : EnvLabel} (hs : s.ConnectingOK)
    (h : s.envStep l = some s') : s'.ConnectingOK := by
  cases l <;> dsimp only [envStep] at h <;> split at h <;> cases h <;> exact hs.of_eq rfl rfl rfl

theorem ConnectingOK.of_supStep {cfg : Config} {s s' : Sys} {l : SupLabel} (hs : s.ConnectingOK)
    (h : s.supStep cfg l = some s') : s'.ConnectingOK := by
  cases l with
  | initStart | initCanceled | initShutdown | initConnected | loopCanceled | drainDone
  | loopShutdown =>
    simp only [supStep, Option.ite_none_right_eq_some, Option.some.injEq] at h
    obtain ⟨-, rfl⟩ := h
    exact hs
  | initDrain n =>
    obtain ⟨-, e, r, -, hr, rfl⟩ := supStep_initDrain h
    exact hs.receive hr
  | drainReceive n =>
    simp only [supStep, Option.ite_none_right_eq_some, Option.map_eq_some'] at h
    obtain ⟨-, r, hr, rfl⟩ := h
    exact hs.receive hr
  | initReceive n =>
    simp only [supStep, Option.ite_none_right_eq_some, Option.map_eq_some'] at h
    obtain ⟨-, r, hr, rfl⟩ := h
    split <;> exact hs.receive hr
  | spawnSibling =>
    obtain ⟨i, -, -, rfl⟩ := supStep_spawnSibling h
    exact hs.startTunnel i
  | startLoop =>
    obtain ⟨i, -, -, rfl⟩ := supStep_startLoop h
    exact hs
  | loopReceive n pick =>
    simp only [supStep, Option.ite_none_right_eq_some, Option.map_eq_some'] at h
    obtain ⟨-, r, hr, rfl⟩ := h
    have hr₁ := hs.receive hr
    rcases handleTunnelError_cases r.1 r.2.1 r.2.2 _ pick with ⟨h, -⟩ | h | h | ⟨h, -⟩ <;>
      rw [h]
    · exact hr₁.startTunnel r.2.1
    · exact hr₁.waitForNextTunnel r.2.1 pick
    · exact hr₁
    · exact hr₁
  | loopTimer =>
    simp only [supStep, Option.ite_none_right_eq_some, Option.some.injEq] at h
    obtain ⟨-, rfl⟩ := h
    have h₀ : ({ s with backoffTimer := false }.logEvent
        (.timerFired s.tunnelsWaiting)).ConnectingOK := hs
    exact h₀.respawnWaiting s.tunnelsWaiting
  | loopConnected pick =>
    obtain ⟨-, -, rfl⟩ := supStep_loopConnected h
    exact hs.waitForNextTunnel s.nextConnectedIndex pick

theorem ConnectingOK.of_step {cfg : Config} {s s' : Sys} {l : Label} (hs : s.ConnectingOK)
    (h : step cfg s l = some s') : s'.ConnectingOK := by
  cases l with
  | env l => exact hs.of_envStep h
  | sup l => exact hs.of_supStep h
  | task n l => exact hs.of_taskStep h

end Sys

/-- In every reachable state of `Run`, the bookkeeping of connecting tunnels holds. -/
theorem connectingOK_of_reachable {cfg : Config} {s : Sys} (hs : Reachable cfg s) :
    s.ConnectingOK := by
  induction hs with
  | init => exact Sys.connectingOK_of_empty rfl rfl
  | step l _ h ih => exact ih.of_step h

/-- When the event loop waits on `nextConnectedSignal = ch`, `tunnelsConnecting` maps
`nextConnectedIndex` to `ch`: the index the loop's case hands to `waitForNextTunnel` is the one
whose channel closed. -/
theorem nextConnected_mem {cfg : Config} {s : Sys} (hs : Reachable cfg s) {ch : Nat}
    (h : s.nextConnectedSignal = some ch) : (s.nextConnectedIndex, ch) ∈ s.tunnelsConnecting := by
  have hok := connectingOK_of_reachable hs
  have hne : s.tunnelsConnecting ≠ [] := fun hnil => by simp [hok.signal_eq_none.2 hnil] at h
  obtain ⟨l₁, l₂, heq, -⟩ := List.lookup_eq_some_iff.1 ((hok.lookup_next hne).trans h)
  simp [heq]

end Cloudflared.Supervisor
