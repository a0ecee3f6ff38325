import Cloudflared.Supervisor.Accounting

/-!
# Protocol fallbacks across the supervisor

Every index owns a `protocolFallback`. `initialize` seeds index `0` with the selector's current
protocol and every sibling with the protocol index `0` holds when the sibling starts, both out of
fallback; a registration resets the index's fallback; and a `Serve` whose protocol backoff fired
runs `selectNextProtocol` on it. `Serve` reads the index's protocol when it calls `serveTunnel`.

With a selector whose `Fallback()` is `(alt, true)` throughout a run, an index in fallback holds
`alt` in every reachable state, and every live session uses the protocol its index holds
(`Sys.FallbackInv`, `fallback_attempts_use_alt`): no `Serve` on an index in fallback uses another
protocol. But `initialize` seeds a sibling with the protocol index `0` fell back to and out of
fallback, and a registration resets an index out of fallback too; on such an index, the first
recoverable error whose protocol backoff fires makes `selectNextProtocol` follow `Current()`
again, even when no tunnel ever connected with it. So a sibling of a first tunnel that fell back
attempts the protocol that failed, with no registration needed (`sibling_returns_to_current`).

Once some session registered with `Current()`, `Serve` no longer asks `selectNextProtocol`, and
no index changes its protocol again (`protocols_settled`).

## Main definitions

* `Label.usesSelector`, `Sys.FallbackInv`.

## Main results

* `fallback_attempts_use_alt`, `sibling_returns_to_current`, `protocols_settled`.
-/

namespace Cloudflared.Supervisor

/-- The label reads the selector as `sel`, where it reads it at all. -/
def Label.usesSelector (sel : ProtocolSelector) : Label → Bool
  | .sup (.initStart c) => c = sel.current
  | .task _ (.backoffFired sel' _) => sel' = sel
  | _ => true

namespace Sys

/-- Every index in fallback holds `alt`. -/
def FallbackInv (alt : Protocol) (s : Sys) : Prop :=
  ∀ i, (s.tunnelsProtocolFallback i).inFallback = true → (s.tunnelsProtocolFallback i).protocol = alt

/-- A task step writes a fallback only through `reset()` or `selectNextProtocol`. -/
theorem taskStep_fallback {cfg : Config} {s s' : Sys} {n : Nat} {l : TaskLabel}
    (h : s.taskStep cfg n l = some s') (i : Nat) :
    s'.tunnelsProtocolFallback i = s.tunnelsProtocolFallback i ∨
      (s'.tunnelsProtocolFallback i).inFallback = false ∨
      ∃ sel r err, l = .backoffFired sel r ∧
        s'.tunnelsProtocolFallback i = (selectNextProtocol (s.tunnelsProtocolFallback i) r sel err).2 := by
  unfold taskStep at h
  split at h
  · cases h
  rename_i t ht
  split at h <;> try dsimp only at h
  · split at h <;> cases h <;> exact .inl rfl
  · cases h
    by_cases hi : i = t.index <;> simp [setFallback, Function.update_apply, hi, logEvent, setPhase]
  · split_ifs at h <;> cases h <;> exact .inl rfl
  · split at h <;> cases h
    exact .inl rfl
  · split at h <;> cases h
    exact .inl rfl
  · split at h <;> cases h
    · by_cases hi : i = t.index
      · rename_i err _ sel reached _ _
        subst hi
        exact .inr (.inr ⟨sel, reached, err, rfl, by
          simp only [setFallback, returnServe, setPhase, logEvent, Function.update_same]⟩)
      · exact .inl (by
          simp [setFallback, Function.update_apply, hi, returnServe, setPhase, logEvent])
    · exact .inl rfl
  · split at h <;> cases h <;> exact .inl rfl
  · cases h

theorem envStep_fallback {s s' : Sys} {l : EnvLabel} (h : s.envStep l = some s') :
    s'.tunnelsProtocolFallback = s.tunnelsProtocolFallback := by
  cases l <;> dsimp only [envStep] at h <;> split at h <;> cases h <;> rfl

/-- With the answer `(alt, true)` of `Fallback()` in the step, the step keeps `FallbackInv alt`. -/
theorem FallbackInv.of_step {cfg : Config} {alt : Protocol} {sel : ProtocolSelector}
    (hfb : sel.fallback = some alt) {s s' : Sys} {l : Label} (hs : s.FallbackInv alt)
    (hl : l.usesSelector sel) (h : step cfg s l = some s') : s'.FallbackInv alt := by
  intro i
  cases l with
  | env l => rw [envStep_fallback h]; exact hs i
  | sup l =>
    rcases (supStep_supFrame h).fallback i with h' | h'
    · rw [h']; exact hs i
    · simp [h']
  | task n l =>
    rcases taskStep_fallback h i with h' | h' | ⟨sel', r, err, rfl, h'⟩
    · rw [h']; exact hs i
    · simp [h']
    · simp only [Label.usesSelector, decide_eq_true_eq] at hl
      subst hl
      rw [h']
      exact selectNextProtocol_protocol_of_inFallback hfb (hs i)

/-- `Serve` reads the protocol of its index when it calls `serveTunnel`. -/
theorem taskStep_serve {cfg : Config} {s s' : Sys} {n : Nat}
    (h : s.taskStep cfg n (.serve none) = some s') :
    ∃ t ∈ s.tasks, s'.log = s.log ++
      [.serveCalled t.index, .attempted t.index (s.tunnelsProtocolFallback t.index).protocol] := by
  unfold taskStep at h
  rcases ht : s.tasks[n]? with _ | t
  · simp [ht] at h
  · cases hph : t.phase <;> simp [ht, hph] at h
    subst h
    exact ⟨t, List.getElem?_mem ht, by simp [logEvent, setPhase]⟩

end Sys

theorem fallbackInv_run {cfg : Config} {sel : ProtocolSelector} {alt : Protocol}
    (hfb : sel.fallback = some alt) :
    ∀ {ls : List Label} {s s' : Sys}, s.FallbackInv alt → (∀ l ∈ ls, l.usesSelector sel) →
      run cfg s ls = some s' → s'.FallbackInv alt
  | [], _, _, hs, _, h => by cases h; exact hs
  | l :: _, _, _, hs, hl, h => by
    simp only [run, Option.bind_eq_some] at h
    obtain ⟨s₁, h₁, h₂⟩ := h
    exact fallbackInv_run hfb (hs.of_step hfb (hl l (List.mem_cons_self _ _)) h₁)
      (fun l' h' => hl l' (List.mem_cons_of_mem _ h')) h₂

/-- With a selector whose `Fallback()` is `(alt, true)` throughout a run, every index in
fallback holds `alt`, and the next `Serve` of any task attempts the protocol its index holds:
`alt` whenever the index is in fallback. -/
theorem fallback_attempts_use_alt {cfg : Config} {sel : ProtocolSelector} {alt : Protocol}
    (hfb : sel.fallback = some alt) {ls : List Label} {s : Sys}
    (hrun : run cfg (Sys.init cfg) ls = some s) (hsel : ∀ l ∈ ls, l.usesSelector sel) :
    s.FallbackInv alt ∧
      ∀ n s', s.taskStep cfg n (.serve none) = some s' →
        ∃ t ∈ s.tasks, s'.log = s.log ++
            [.serveCalled t.index, .attempted t.index (s.tunnelsProtocolFallback t.index).protocol] ∧
          ((s.tunnelsProtocolFallback t.index).inFallback = true →
            (s.tunnelsProtocolFallback t.index).protocol = alt) := by
  have hinv :=
    fallbackInv_run hfb (fun _ h => by simp [Sys.init, ProtocolFallback.seed] at h) hsel hrun
  refine ⟨hinv, fun n s' h => ?_⟩
  obtain ⟨t, ht, hlog⟩ := Sys.taskStep_serve h
  exact ⟨t, ht, hlog, hinv t.index⟩

/-- Index `0` meets an idle timeout over QUIC, falls back to HTTP/2 and registers with it, and
`initialize` starts index `1`. -/
def fallBackFirst : List Label :=
  [.sup (.initStart .quic), .task 0 (.serve none),
    .task 0 (.sessionEnd ⟨none, .prefer, some (.idleTimeout "timeout: no recent network activity"),
      none⟩ none),
    .task 0 (.backoffFired ⟨.quic, some .http2⟩ false), .task 0 .retryFirst,
    .task 0 (.serve none), .task 0 .connect, .env (.notify 0), .sup .initConnected,
    .sup .spawnSibling, .sup .startLoop]

/-- Index `1`'s first session ends on an application error before it registers, its protocol
backoff makes `selectNextProtocol` follow `Current()`, and the event loop respawns it. -/
def returnToCurrent : List Label :=
  [.task 1 (.serve none),
    .task 1 (.sessionEnd ⟨none, .prefer, some (.application "Application error 0x0"), none⟩ none),
    .task 1 (.backoffFired ⟨.quic, some .http2⟩ false), .sup (.loopReceive 1 0),
    .sup .loopTimer, .task 1 (.serve none)]

/-- With `Current()` QUIC and `Fallback()` HTTP/2 throughout, index `0` falls back before it
registers, and `initialize` seeds index `1` with HTTP/2 out of fallback. Index `1` never
registers, and after its first recoverable error it attempts QUIC, although no tunnel connected
with it. -/
theorem sibling_returns_to_current :
    (∀ l ∈ fallBackFirst ++ returnToCurrent, l.usesSelector ⟨.quic, some .http2⟩) ∧
      ∃ s₁ s, run twoTunnels (Sys.init twoTunnels) fallBackFirst = some s₁ ∧
        [Event.attempted 0 .quic, .attempted 0 .http2, .connected 0 .http2, .spawned 1].Sublist
          s₁.log ∧ s₁.tunnelsProtocolFallback 1 = .seed .http2 ∧
        run twoTunnels s₁ returnToCurrent = some s ∧
        [Event.attempted 1 .http2, .attempted 1 .quic].Sublist s.log ∧
        (∀ p, Event.connected 1 p ∉ s.log) ∧ Protocol.quic ∉ s.connectedWith :=
  ⟨by decide, _, _, rfl, by decide, rfl, rfl, by decide, fun p => by cases p <;> decide, by decide⟩

/-! ### Once a tunnel connected with the current protocol -/

namespace Sys

/-- A task step keeps the protocol of every index, except when `Serve`'s protocol backoff fired
while `Current()` is not among the protocols some session registered with. -/
theorem taskStep_protocol {cfg : Config} {s s' : Sys} {n : Nat} {l : TaskLabel}
    (h : s.taskStep cfg n l = some s') (i : Nat) :
    (s'.tunnelsProtocolFallback i).protocol = (s.tunnelsProtocolFallback i).protocol ∨
      ∃ sel r, l = .backoffFired sel r ∧ sel.current ∉ s.connectedWith := by
  unfold taskStep at h
  split at h
  · cases h
  rename_i t ht
  split at h <;> try dsimp only at h
  · split at h <;> cases h <;> exact .inl rfl
  · cases h
    left
    by_cases hi : i = t.index <;>
      simp [setFallback, Function.update_apply, hi, logEvent, setPhase, ProtocolFallback.reset]
  · split_ifs at h <;> cases h <;> exact .inl rfl
  · split at h <;> cases h
    exact .inl rfl
  · split at h <;> cases h
    exact .inl rfl
  · rename_i sel reached _
    split at h <;> cases h
    · rename_i hfb
      simp only [Bool.and_eq_true, Bool.not_eq_true', decide_eq_false_iff_not] at hfb
      exact .inr ⟨sel, reached, rfl, hfb.2⟩
    · exact .inl rfl
  · split at h <;> cases h <;> exact .inl rfl
  · cases h

/-- The protocols some session registered with only grow. -/
theorem taskStep_connectedWith {cfg : Config} {s s' : Sys} {n : Nat} {l : TaskLabel}
    (h : s.taskStep cfg n l = some s') : s.connectedWith ⊆ s'.connectedWith := by
  unfold taskStep at h
  split at h
  · cases h
  split at h <;> try dsimp only at h
  all_goals first | cases h | (split at h <;> cases h) | (split_ifs at h <;> cases h)
  all_goals first | exact List.Subset.refl _ | exact List.subset_append_left _ _

/-- Past `initialize`, with `Current()` among the protocols some session registered with, a step
that reads the selector as `sel` keeps that so and changes no index's protocol. -/
theorem settledStep {cfg : Config} {sel : ProtocolSelector} {s s' : Sys} {l : Label}
    (hpc : s.pc.pastInit) (hc : sel.current ∈ s.connectedWith) (hl : l.usesSelector sel)
    (h : step cfg s l = some s') :
    s'.pc.pastInit ∧ sel.current ∈ s'.connectedWith ∧
      ∀ i, (s'.tunnelsProtocolFallback i).protocol = (s.tunnelsProtocolFallback i).protocol := by
  cases l with
  | env l =>
    replace h : s.envStep l = some s' := h
    have hw : s'.connectedWith = s.connectedWith := by
      cases l <;> dsimp only [envStep] at h <;> split at h <;> cases h <;> rfl
    exact ⟨(envStep_sameControl h).pc ▸ hpc, hw ▸ hc, fun i => by rw [envStep_fallback h]⟩
  | sup l =>
    obtain ⟨hpc', -, hpf⟩ := supStep_pastInit hpc h
    exact ⟨hpc', (supStep_supKeeps h).connectedWith ▸ hc, fun i => by rw [hpf]⟩
  | task n l =>
    replace h : s.taskStep cfg n l = some s' := h
    refine ⟨(taskStep_sameControl h).pc ▸ hpc, taskStep_connectedWith h hc, fun i => ?_⟩
    rcases taskStep_protocol h i with h' | ⟨sel', r, rfl, hn⟩
    · exact h'
    · simp only [Label.usesSelector, decide_eq_true_eq] at hl
      exact absurd (hl ▸ hc) hn

theorem settledRun {cfg : Config} {sel : ProtocolSelector} :
    ∀ {ls : List Label} {s s' : Sys}, s.pc.pastInit → sel.current ∈ s.connectedWith →
      (∀ l ∈ ls, l.usesSelector sel) → run cfg s ls = some s' →
      ∀ i, (s'.tunnelsProtocolFallback i).protocol = (s.tunnelsProtocolFallback i).protocol
  | [], _, _, _, _, _, h, _ => by cases h; rfl
  | l :: _, _, _, hpc, hc, hl, h, i => by
    simp only [run, Option.bind_eq_some] at h
    obtain ⟨s₁, h₁, h₂⟩ := h
    obtain ⟨hpc₁, hc₁, hp₁⟩ := settledStep hpc hc (hl l (List.mem_cons_self _ _)) h₁
    rw [settledRun hpc₁ hc₁ (fun l' h' => hl l' (List.mem_cons_of_mem _ h')) h₂ i, hp₁ i]

end Sys

/-- Once `initialize` is over and some session registered with the selector's current protocol,
no index changes its protocol again, whatever its sessions meet: `Serve` asks
`selectNextProtocol` only while `HasConnectedWith(Current())` is false. -/
theorem protocols_settled {cfg : Config} {sel : ProtocolSelector} {ls : List Label} {s s' : Sys}
    (hpc : s.pc.pastInit) (hc : sel.current ∈ s.connectedWith)
    (hsel : ∀ l ∈ ls, l.usesSelector sel) (h : run cfg s ls = some s') (i : Nat) :
    (s'.tunnelsProtocolFallback i).protocol = (s.tunnelsProtocolFallback i).protocol :=
  Sys.settledRun hpc hc hsel h i

/-- The state `bringUpTwo` ends in: index `0` registered with QUIC and `Run` is at its event
loop. -/
def upTwo : Sys := (run twoTunnels (Sys.init twoTunnels) bringUpTwo).getD (Sys.init twoTunnels)

/-- Index `1` ends its session on an application error, which is recoverable, and its protocol
backoff fires with the maximum retries reached. -/
def secondBacksOff : List Label :=
  [.task 1 (.serve none),
    .task 1 (.sessionEnd ⟨none, .prefer, some (.application "Application error 0x0"), none⟩ none),
    .task 1 (.backoffFired ⟨.quic, some .http2⟩ true)]

/-- The state `secondBacksOff` ends in. -/
def secondBackedOff : Sys := (run twoTunnels upTwo secondBacksOff).getD upTwo

theorem protocols_settled_upTwo :
    upTwo.pc.pastInit ∧ Protocol.quic ∈ upTwo.connectedWith ∧
      (∀ l ∈ secondBacksOff, l.usesSelector ⟨.quic, some .http2⟩) ∧
      run twoTunnels upTwo secondBacksOff = some secondBackedOff ∧
      ∀ i, (secondBackedOff.tunnelsProtocolFallback i).protocol =
        (upTwo.tunnelsProtocolFallback i).protocol :=
  ⟨rfl, by decide, by decide, rfl, protocols_settled rfl
    (show (⟨.quic, some .http2⟩ : ProtocolSelector).current ∈ upTwo.connectedWith by decide)
    (by decide) (show run twoTunnels upTwo secondBacksOff = some secondBackedOff from rfl)⟩

end Cloudflared.Supervisor
