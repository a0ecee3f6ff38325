import Cloudflared.Errors

/-!
# The protocol fallback of one connection index

Every connection index owns a `protocolFallback`: a `retry.BackoffHandler`, the protocol its next
attempt uses, and the flag `inFallback`. `reset()` (run by `connectedFuse.Connected` when a
session registers) clears the flag; `fallback(p)` sets the protocol to `p` and the flag; and
`selectNextProtocol`, run by `Serve` after a backoff, falls back, follows the selector's current
protocol, or keeps the protocol as it is.

The backoff handler belongs to the `retry` package, which is not part of `src/`; its state is not
modelled. What the supervisor reads from it, `ReachedMaxRetries()` here and
`GetMaxBackoffDuration` and `BackoffTimer` in the supervisor's step, is an input of the step
that reads it, so every result holds for every answer the handler can give. The selector is an
input in the same way: one answer of `Current()` and `Fallback()` for each call of
`selectNextProtocol`.

`runOps` runs any sequence of operations on one `protocolFallback` and records each write to
`protocol` and each `reset()`. Over every sequence, `inFallback` holds exactly when the last of
these is a `fallback(p)`, and then the protocol is `p`; with a constant answer of `Fallback()`,
a `fallback` is always followed by a `reset` before the protocol is written again
(`protocolFallback_tracks_fallback`).

## Main definitions

* `Protocol`, `ProtocolSelector`, `ProtocolFallback`, `ProtocolFallback.reset`,
  `ProtocolFallback.fallback`.
* `Selection`, `selection`, `selectNextProtocol`: the branch `selectNextProtocol` takes and its
  effect.
* `FallbackOp`, `FallbackEvent`, `ProtocolFallback.runOps`.

## Main results

* `ProtocolFallback.protocolFallback_tracks_fallback`.
-/

namespace Cloudflared

/-- `connection.Protocol`. -/
inductive Protocol where
  | quic
  | http2
  deriving DecidableEq, Repr

/-- One answer of a `connection.ProtocolSelector`: `Current()` and `Fallback()`, the latter
`(p, true)` or `(_, false)`. -/
structure ProtocolSelector where
  current : Protocol
  fallback : Option Protocol
  deriving DecidableEq, Repr

/-- `protocolFallback`, without the state of its `retry.BackoffHandler`. -/
structure ProtocolFallback where
  protocol : Protocol
  inFallback : Bool
  deriving DecidableEq, Repr

namespace ProtocolFallback

/-- `&protocolFallback{backoff, p, false}`, as `initialize` builds it for every index. -/
def seed (p : Protocol) : ProtocolFallback := ⟨p, false⟩

/-- `reset()`: `ResetNow()` on the backoff, then `inFallback = false`. -/
def reset (pf : ProtocolFallback) : ProtocolFallback := { pf with inFallback := false }

/-- `fallback(p)`: `ResetNow()` on the backoff, `protocol = p`, `inFallback = true`. -/
def fallback (pf : ProtocolFallback) (p : Protocol) : ProtocolFallback :=
  { pf with protocol := p, inFallback := true }

@[simp] theorem inFallback_reset (pf : ProtocolFallback) : pf.reset.inFallback = false := rfl
@[simp] theorem protocol_reset (pf : ProtocolFallback) : pf.reset.protocol = pf.protocol := rfl
@[simp] theorem inFallback_fallback (pf : ProtocolFallback) (p : Protocol) :
    (pf.fallback p).inFallback = true := rfl
@[simp] theorem protocol_fallback (pf : ProtocolFallback) (p : Protocol) :
    (pf.fallback p).protocol = p := rfl

end ProtocolFallback

/-- The branch `selectNextProtocol` takes: `return false`; `fallback(p)`; `protocolBackoff.protocol
= current`; or leave the protocol as it is. -/
inductive Selection where
  | stop
  | fallBack (p : Protocol)
  | change (p : Protocol)
  | keep
  deriving DecidableEq, Repr

/-- The branch of `selectNextProtocol(connLog, protocolBackoff, selector, cause)`, where
`reachedMaxRetries` is the answer of `protocolBackoff.ReachedMaxRetries()`. -/
def selection (pf : ProtocolFallback) (reachedMaxRetries : Bool) (selector : ProtocolSelector)
    (cause : Option TunnelErr) : Selection :=
  if reachedMaxRetries || (selector.fallback.isSome && isQuicBroken cause) then
    match selector.fallback with
    | none => .stop
    | some fb => if pf.protocol = fb then .stop else .fallBack fb
  else if !pf.inFallback then
    if pf.protocol ≠ selector.current then .change selector.current else .keep
  else .keep

namespace Selection

/-- What the branch does to the `protocolFallback`. -/
def apply : Selection → ProtocolFallback → ProtocolFallback
  | stop, pf | keep, pf => pf
  | fallBack p, pf => pf.fallback p
  | change p, pf => { pf with protocol := p }

/-- The result of `selectNextProtocol`: `false` only on the branches that `return false`. -/
def retry : Selection → Bool
  | stop => false
  | _ => true

end Selection

/-- `selectNextProtocol`: whether to keep retrying, and the `protocolFallback` after it. -/
def selectNextProtocol (pf : ProtocolFallback) (reachedMaxRetries : Bool)
    (selector : ProtocolSelector) (cause : Option TunnelErr) : Bool × ProtocolFallback :=
  let s := selection pf reachedMaxRetries selector cause
  (s.retry, s.apply pf)

/-- `selectNextProtocol` follows the selector's current protocol only out of fallback. -/
theorem selection_eq_change {pf : ProtocolFallback} {r : Bool} {sel : ProtocolSelector}
    {cause : Option TunnelErr} {p : Protocol} (h : selection pf r sel cause = .change p) :
    pf.inFallback = false ∧ p = sel.current := by
  unfold selection at h
  cases hfb : sel.fallback <;> simp only [hfb] at h <;> split_ifs at h <;> simp_all

/-- `selectNextProtocol` falls back only to the answer of `Fallback()`, and only from another
protocol. -/
theorem selection_eq_fallBack {pf : ProtocolFallback} {r : Bool} {sel : ProtocolSelector}
    {cause : Option TunnelErr} {p : Protocol} (h : selection pf r sel cause = .fallBack p) :
    sel.fallback = some p ∧ pf.protocol ≠ p := by
  unfold selection at h
  cases hfb : sel.fallback <;> simp only [hfb] at h
  all_goals split_ifs at h <;> simp_all

/-- With the answer `(alt, true)` of `Fallback()`, `selectNextProtocol` keeps a `protocolFallback`
in fallback only at `alt`. -/
theorem selectNextProtocol_protocol_of_inFallback {pf : ProtocolFallback} {r : Bool}
    {sel : ProtocolSelector} {cause : Option TunnelErr} {alt : Protocol}
    (hfb : sel.fallback = some alt) (h : pf.inFallback = true → pf.protocol = alt) :
    (selectNextProtocol pf r sel cause).2.inFallback = true →
      (selectNextProtocol pf r sel cause).2.protocol = alt := by
  simp only [selectNextProtocol]
  cases hs : selection pf r sel cause with
  | stop | keep => exact h
  | fallBack p =>
    intro
    have := (selection_eq_fallBack hs).1
    simp_all [Selection.apply]
  | change p => simp [Selection.apply, (selection_eq_change hs).1]

/-! ### Runs of operations on one `protocolFallback` -/

/-- An operation on one `protocolFallback`: a `selectNextProtocol` with its answers, a `reset()`
(directly or through `connectedFuse.Connected`), or a step of the embedded backoff handler
(`BackoffTimer`, `GetMaxBackoffDuration`, `ResetNow`), which leaves `protocol` and
`inFallback` alone. -/
inductive FallbackOp where
  | selectNext (reachedMaxRetries : Bool) (selector : ProtocolSelector) (cause : Option TunnelErr)
  | reset
  | backoffStep
  deriving DecidableEq, Repr

/-- A write to `protocol`, by the literal of `initialize`, by `selectNextProtocol`'s
assignment or by `fallback(p)`; or a run of `reset()`. -/
inductive FallbackEvent where
  | seeded (p : Protocol)
  | selected (p : Protocol)
  | fellBack (p : Protocol)
  | reset
  deriving DecidableEq, Repr

/-- The event is a `fallback(p)`. -/
def FallbackEvent.isFellBack : FallbackEvent → Bool
  | fellBack _ => true
  | _ => false

/-- The writes of one branch of `selectNextProtocol`. -/
def Selection.events : Selection → List FallbackEvent
  | fallBack p => [.fellBack p]
  | change p => [.selected p]
  | _ => []

/-- Every `Fallback()` answer of the operation is `v`. -/
def FallbackOp.answersFallback (v : Option Protocol) : FallbackOp → Prop
  | selectNext _ sel _ => sel.fallback = v
  | _ => True

namespace ProtocolFallback

/-- One operation: the `protocolFallback` after it and the events it records, the writes of the
branch `selectNextProtocol` took. -/
def applyOp (pf : ProtocolFallback) : FallbackOp → ProtocolFallback × List FallbackEvent
  | .selectNext r sel cause =>
    ((selectNextProtocol pf r sel cause).2, (selection pf r sel cause).events)
  | .reset => (pf.reset, [.reset])
  | .backoffStep => (pf, [])

/-- A sequence of operations, from a `protocolFallback` and the events recorded so far. -/
def runOps (st : ProtocolFallback × List FallbackEvent) (ops : List FallbackOp) :
    ProtocolFallback × List FallbackEvent :=
  ops.foldl (fun st op => ((st.1.applyOp op).1, st.2 ++ (st.1.applyOp op).2)) st

theorem runOps_append (st : ProtocolFallback × List FallbackEvent) (ops : List FallbackOp)
    (op : FallbackOp) :
    runOps st (ops ++ [op]) =
      (((runOps st ops).1.applyOp op).1, (runOps st ops).2 ++ ((runOps st ops).1.applyOp op).2) := by
  simp [runOps, List.foldl_append]

/-- The flag is what the last write or reset says: after a `fallback(p)`, set with protocol `p`;
after anything else, clear. -/
def Tracks (pf : ProtocolFallback) (log : List FallbackEvent) : Prop :=
  match log.getLast? with
  | some (.fellBack p) => pf.inFallback = true ∧ pf.protocol = p
  | _ => pf.inFallback = false

theorem tracks_append_nil {pf : ProtocolFallback} {log : List FallbackEvent} (h : Tracks pf log) :
    Tracks pf (log ++ []) := by
  simpa using h

/-- Every operation keeps `Tracks`. -/
theorem tracks_applyOp {pf : ProtocolFallback} {log : List FallbackEvent} (h : Tracks pf log)
    (op : FallbackOp) : Tracks (pf.applyOp op).1 (log ++ (pf.applyOp op).2) := by
  cases op with
  | selectNext r sel cause =>
    simp only [applyOp, selectNextProtocol]
    cases hs : selection pf r sel cause with
    | stop | keep => exact tracks_append_nil h
    | fallBack p => simp [Tracks, Selection.apply, Selection.events]
    | change p => simp [Tracks, Selection.apply, Selection.events, (selection_eq_change hs).1]
  | reset => simp [Tracks, applyOp]
  | backoffStep => exact tracks_append_nil h

/-- Every `fallback(p)` recorded applied the answer `v` of `Fallback()`. -/
def FellBackTo (v : Option Protocol) (log : List FallbackEvent) : Prop :=
  ∀ p, FallbackEvent.fellBack p ∈ log → v = some p

/-- The events recorded after a `fallback`: none, or a `reset`. -/
def AfterFellBack (log : List FallbackEvent) : Prop :=
  log.Chain' fun a b => a.isFellBack → b = .reset

/-- With the answer `v` of `Fallback()` throughout, an operation after a `fallback` records at
most a `reset`, and every `fallback` applies `v`. -/
theorem fellBack_applyOp {v : Option Protocol} {pf : ProtocolFallback}
    {log : List FallbackEvent} (ht : Tracks pf log) (hv : FellBackTo v log)
    (hc : AfterFellBack log) (op : FallbackOp) (hop : op.answersFallback v) :
    FellBackTo v (log ++ (pf.applyOp op).2) ∧ AfterFellBack (log ++ (pf.applyOp op).2) := by
  have hevents : ∀ e ∈ (pf.applyOp op).2, (∀ p, e = .fellBack p → v = some p) ∧
      ∀ p, Tracks pf log → log.getLast? = some (.fellBack p) → FellBackTo v log → e = .reset := by
    cases op with
    | selectNext r sel cause =>
      simp only [applyOp, FallbackOp.answersFallback] at hop ⊢
      cases hs : selection pf r sel cause with
      | stop | keep => simp [Selection.events]
      | change q =>
        simp only [Selection.events, List.mem_singleton, forall_eq, reduceCtorEq, false_implies,
          implies_true, true_and]
        intro p ht' hx _
        simp [Tracks, hx, (selection_eq_change hs).1] at ht'
      | fallBack q =>
        obtain ⟨hq, hne⟩ := selection_eq_fallBack hs
        simp only [Selection.events, List.mem_singleton, forall_eq, FallbackEvent.fellBack.injEq,
          forall_eq', reduceCtorEq]
        refine ⟨hop ▸ hq, fun p ht' hx hv' => ?_⟩
        simp only [Tracks, hx] at ht'
        have hvp := hv' p (List.mem_of_getLast?_eq_some hx)
        exact hne (Option.some.inj (hq.symm.trans (hop.trans hvp)) ▸ ht'.2)
    | reset | backoffStep => simp [applyOp]
  refine ⟨fun p hp => ?_, List.chain'_append.mpr ⟨hc, ?_, ?_⟩⟩
  · rcases List.mem_append.mp hp with hp | hp
    · exact hv p hp
    · exact (hevents _ hp).1 p rfl
  · cases op with
    | selectNext r sel cause =>
      simp only [applyOp]
      cases selection pf r sel cause <;> simp [Selection.events]
    | reset | backoffStep => simp [applyOp]
  · intro x hx y hy hfell
    cases x with
    | fellBack p => exact (hevents y (List.mem_of_mem_head? hy)).2 p ht hx hv
    | _ => simp [FallbackEvent.isFellBack] at hfell

/-- Over every sequence of operations on a `protocolFallback` built by `initialize`:
`inFallback` holds exactly when the last write to `protocol`, or run of `reset()`, is a
`fallback(p)`, and then `protocol = p`; and when `Fallback()` answers the same `v` throughout,
whatever follows a `fallback` is a `reset()`, so `fallback` is applied at most once between two
resets and nothing writes `protocol` after it until the next reset. -/
theorem protocolFallback_tracks_fallback (p₀ : Protocol) (ops : List FallbackOp) :
    let r := runOps (seed p₀, [.seeded p₀]) ops
    (r.1.inFallback = true ↔ ∃ p, r.2.getLast? = some (.fellBack p)) ∧
      (∀ p, r.2.getLast? = some (.fellBack p) → r.1.protocol = p) ∧
      ∀ v, (∀ op ∈ ops, op.answersFallback v) → AfterFellBack r.2 := by
  dsimp only
  have htracks : ∀ ops : List FallbackOp, Tracks (runOps (seed p₀, [.seeded p₀]) ops).1
      (runOps (seed p₀, [.seeded p₀]) ops).2 := by
    intro ops
    induction ops using List.reverseRecOn with
    | nil => rfl
    | append_singleton ops op ih => rw [runOps_append]; exact tracks_applyOp ih op
  have ht := htracks ops
  refine ⟨?_, ?_, fun v hv => ?_⟩
  · simp only [Tracks] at ht
    split at ht <;> simp_all
  · intro p hp
    simp only [Tracks, hp] at ht
    exact ht.2
  · suffices h : ∀ ops' : List FallbackOp, (∀ op ∈ ops', op.answersFallback v) →
        FellBackTo v (runOps (seed p₀, [.seeded p₀]) ops').2 ∧
          AfterFellBack (runOps (seed p₀, [.seeded p₀]) ops').2 from (h ops hv).2
    intro ops' hops
    induction ops' using List.reverseRecOn with
    | nil => exact ⟨by simp [FellBackTo, runOps], List.chain'_singleton _⟩
    | append_singleton ops' op ih =>
      have hall := fun o ho => hops o (List.mem_append_left _ ho)
      obtain ⟨hv', hc'⟩ := ih hall
      rw [runOps_append]
      exact fellBack_applyOp (htracks ops') hv' hc' op (hops op (by simp))

end ProtocolFallback

end Cloudflared
