import Cloudflared.Errors

/-!
# Edge-address rotation: `ipAddrFallback`

`EdgeTunnelServer.Serve` asks the edge-address handler, after every session, whether the error
calls for a new edge address and whether it is a connectivity error. The handler of this
repository is `ipAddrFallback`: a `map[uint8]uint8` of retry counters, one for each connection
index, and a bound `maxRetries`, all under one mutex. A dial error (`edgediscovery.DialError` or
`*connection.EdgeQuicDialError`) asks for a new address and counts a retry of its index; the
retry that finds the counter at the bound reports "reached max retries" and puts the counter back
to `0`.

The mutex makes the calls of all serving tasks one sequence, in some order; `runCalls` runs any
such sequence. Over every sequence the counter of an index is the number of dial errors of that
index so far, modulo `maxRetries + 1` (`retries_runCalls`), so it never passes the bound and its
`uint8` increment never wraps.

## Main definitions

* `ConnectivityError`, `IPAddrFallback`, `newIPAddrFallback`.
* `IPAddrFallback.shouldGetNewAddress`: `ShouldGetNewAddress(connIndex, err)`.
* `IPAddrFallback.runCalls`, `dialCount`.

## Main results

* `IPAddrFallback.shouldGetNewAddress_counts_dial_errors`: the closed form of the counter and
  of the answer to a dial error, over every sequence of calls.
-/

namespace Cloudflared

/-- `ConnectivityError{reachedMaxRetries}`. -/
structure ConnectivityError where
  reachedMaxRetries : Bool
  deriving DecidableEq, Repr

/-- `ipAddrFallback`: the retry counters (`map[uint8]uint8`, whose missing keys read as `0`) and
the bound `maxRetries`. The mutex is the order in which `runCalls` takes the calls. -/
structure IPAddrFallback where
  retriesByConnIndex : UInt8 → UInt8
  maxRetries : UInt8

/-- `NewIPAddrFallback(maxRetries)`. -/
def newIPAddrFallback (maxRetries : UInt8) : IPAddrFallback := ⟨fun _ => 0, maxRetries⟩

/-- The errors `ShouldGetNewAddress` counts: `edgediscovery.DialError` and
`*connection.EdgeQuicDialError`, by dynamic type. -/
def isDialError : Option TunnelErr → Bool
  | some (.dial _) | some (.edgeQuicDial _ _) => true
  | _ => false

namespace IPAddrFallback

/-- `f.retriesByConnIndex[connIndex] = n`. -/
def setRetries (f : IPAddrFallback) (connIndex n : UInt8) : IPAddrFallback :=
  { f with retriesByConnIndex := Function.update f.retriesByConnIndex connIndex n }

/-- `ShouldGetNewAddress(connIndex, err)`: whether to rotate the edge address, the connectivity
error if there is one, and the handler after the call. -/
def shouldGetNewAddress (f : IPAddrFallback) (connIndex : UInt8) :
    Option TunnelErr → (Bool × Option ConnectivityError) × IPAddrFallback
  | none => ((false, none), f)
  | some (.dupConnRegister _) | some (.idleTimeout _) => ((true, none), f)
  | some (.dial _) | some (.edgeQuicDial _ _) =>
    if f.retriesByConnIndex connIndex ≥ f.maxRetries then
      ((true, some ⟨true⟩), f.setRetries connIndex 0)
    else
      ((true, some ⟨false⟩), f.setRetries connIndex (f.retriesByConnIndex connIndex + 1))
  | some _ => ((false, none), f)

/-- The handler after a sequence of calls `(connIndex, err)`, in the order the mutex let them in. -/
def runCalls (f : IPAddrFallback) : List (UInt8 × Option TunnelErr) → IPAddrFallback
  | [] => f
  | (i, err) :: calls => ((f.shouldGetNewAddress i err).2).runCalls calls

@[simp] theorem runCalls_nil (f : IPAddrFallback) : f.runCalls [] = f := rfl

@[simp] theorem runCalls_append (f : IPAddrFallback) (calls : List (UInt8 × Option TunnelErr))
    (c : UInt8 × Option TunnelErr) :
    f.runCalls (calls ++ [c]) = ((f.runCalls calls).shouldGetNewAddress c.1 c.2).2 := by
  induction calls generalizing f with
  | nil => rfl
  | cons d calls ih => exact ih _

@[simp] theorem maxRetries_shouldGetNewAddress (f : IPAddrFallback) (i : UInt8)
    (err : Option TunnelErr) : (f.shouldGetNewAddress i err).2.maxRetries = f.maxRetries := by
  unfold shouldGetNewAddress
  split <;> (try split) <;> rfl

@[simp] theorem maxRetries_runCalls (f : IPAddrFallback) (calls : List (UInt8 × Option TunnelErr)) :
    (f.runCalls calls).maxRetries = f.maxRetries := by
  induction calls using List.reverseRecOn <;> simp_all

/-- A call that is not a dial error of `idx` leaves the counter of `idx` alone. -/
theorem retries_shouldGetNewAddress_of_ne (f : IPAddrFallback) (i idx : UInt8)
    (err : Option TunnelErr) (h : ¬(i = idx ∧ isDialError err)) :
    (f.shouldGetNewAddress i err).2.retriesByConnIndex idx = f.retriesByConnIndex idx := by
  unfold shouldGetNewAddress
  split <;> (try split) <;> simp_all [isDialError, setRetries, Function.update_noteq, Ne.symm]

/-- A dial error of `idx` either finds the counter at the bound and clears it, reporting the
bound reached, or increments it. -/
theorem shouldGetNewAddress_of_dial (f : IPAddrFallback) (idx : UInt8) (err : Option TunnelErr)
    (h : isDialError err) :
    f.shouldGetNewAddress idx err =
      if f.retriesByConnIndex idx ≥ f.maxRetries then ((true, some ⟨true⟩), f.setRetries idx 0)
      else ((true, some ⟨false⟩), f.setRetries idx (f.retriesByConnIndex idx + 1)) := by
  match err, h with
  | some (.dial _), _ | some (.edgeQuicDial _ _), _ => rfl

/-- The number of dial errors of `idx` in a sequence of calls. -/
def dialCount (idx : UInt8) (calls : List (UInt8 × Option TunnelErr)) : Nat :=
  (calls.filter fun c => c.1 = idx ∧ isDialError c.2).length

@[simp] theorem dialCount_nil (idx : UInt8) : dialCount idx [] = 0 := rfl

theorem dialCount_append (idx : UInt8) (calls : List (UInt8 × Option TunnelErr))
    (c : UInt8 × Option TunnelErr) :
    dialCount idx (calls ++ [c]) =
      dialCount idx calls + if c.1 = idx ∧ isDialError c.2 then 1 else 0 := by
  by_cases hc : c.1 = idx ∧ isDialError c.2 <;> simp [dialCount, List.filter_append, hc]

/-- The arithmetic of one counted retry: at the bound the count reaches a multiple of `m + 1`;
below it the counter is incremented without wrapping. -/
private theorem retry_arith {c m : UInt8} {k : Nat} (hc : c.toNat = k % (m.toNat + 1)) :
    (m ≤ c → (k + 1) % (m.toNat + 1) = 0) ∧
      (¬m ≤ c → (c + 1).toNat = c.toNat + 1 ∧ c.toNat + 1 = (k + 1) % (m.toNat + 1)) := by
  have hm := UInt8.toNat_lt m
  have hlt : c.toNat < m.toNat + 1 := hc ▸ Nat.mod_lt k (Nat.succ_pos _)
  have hsucc : (k + 1) % (m.toNat + 1) = (c.toNat + 1) % (m.toNat + 1) := by
    rw [← Nat.mod_add_mod, ← hc]
  have hone : (1 : UInt8).toNat = 1 := rfl
  simp only [UInt8.le_def, BitVec.le_def, UInt8.toNat_add, hone, UInt8.size, hsucc]
  change (m.toNat ≤ c.toNat → _) ∧ (¬m.toNat ≤ c.toNat → _)
  constructor <;> intro h
  · rw [show c.toNat = m.toNat by omega, Nat.mod_self]
  · rw [Nat.mod_eq_of_lt (by omega), Nat.mod_eq_of_lt (by omega)]
    exact ⟨rfl, rfl⟩

/-- Over every sequence of calls the counter of `idx` is the number of dial errors of `idx` so
far, modulo `maxRetries + 1`. -/
theorem retries_runCalls (m : UInt8) (idx : UInt8) (calls : List (UInt8 × Option TunnelErr)) :
    (((newIPAddrFallback m).runCalls calls).retriesByConnIndex idx).toNat =
      dialCount idx calls % (m.toNat + 1) := by
  induction calls using List.reverseRecOn with
  | nil => rfl
  | append_singleton calls c ih =>
    rw [runCalls_append, dialCount_append]
    by_cases hc : c.1 = idx ∧ isDialError c.2
    · obtain ⟨i, err⟩ := c
      obtain ⟨rfl, hdial⟩ := hc
      have harith := retry_arith ih
      simp only [maxRetries_runCalls, newIPAddrFallback] at harith
      rw [shouldGetNewAddress_of_dial _ _ _ hdial]
      simp only [maxRetries_runCalls, newIPAddrFallback, if_pos (And.intro rfl hdial)]
      split <;> simp_all [setRetries]
    · rw [retries_shouldGetNewAddress_of_ne _ _ _ _ hc, ih, if_neg hc]
      rfl

/-- `ShouldGetNewAddress` over every sequence of calls, in whatever order the mutex lets them in:
a dial error of `idx` asks for a new address and reports the bound reached exactly when the
number of dial errors of `idx` so far, this one included, is a multiple of `maxRetries + 1`;
the counter of `idx` is that number modulo `maxRetries + 1`, so it stays at most `maxRetries`;
and a call on another index or with another error leaves it alone. -/
theorem shouldGetNewAddress_counts_dial_errors (m : UInt8) (calls : List (UInt8 × Option TunnelErr))
    (idx : UInt8) (err : Option TunnelErr) (hdial : isDialError err) :
    let f := (newIPAddrFallback m).runCalls calls
    (f.shouldGetNewAddress idx err).1 =
        (true, some ⟨decide (dialCount idx (calls ++ [(idx, err)]) % (m.toNat + 1) = 0)⟩) ∧
      (f.retriesByConnIndex idx).toNat = dialCount idx calls % (m.toNat + 1) ∧
      f.retriesByConnIndex idx ≤ m ∧
      ∀ j e, ¬(j = idx ∧ isDialError e) →
        (f.shouldGetNewAddress j e).2.retriesByConnIndex idx = f.retriesByConnIndex idx := by
  intro f
  have hf : (f.retriesByConnIndex idx).toNat = dialCount idx calls % (m.toNat + 1) :=
    retries_runCalls m idx calls
  have harith := retry_arith hf
  have hle : f.retriesByConnIndex idx ≤ m := by
    simp only [UInt8.le_def, BitVec.le_def]
    change (f.retriesByConnIndex idx).toNat ≤ m.toNat
    rw [hf]
    exact Nat.le_of_lt_succ (Nat.mod_lt _ (Nat.succ_pos _))
  refine ⟨?_, hf, hle, fun j e h => retries_shouldGetNewAddress_of_ne f j idx e h⟩
  have hcount : dialCount idx (calls ++ [(idx, err)]) = dialCount idx calls + 1 := by
    rw [dialCount_append, if_pos (show idx = idx ∧ isDialError err from ⟨rfl, hdial⟩)]
  have hm : f.maxRetries = m := maxRetries_runCalls _ _
  rw [shouldGetNewAddress_of_dial f idx err hdial, hcount, hm]
  by_cases hge : m ≤ f.retriesByConnIndex idx
  · simp [if_pos hge, harith.1 hge]
  · obtain ⟨-, hsucc⟩ := harith.2 hge
    rw [if_neg hge, ← hsucc]
    simp

/-- With `maxRetries = 1`, the second dial error of index `0` reports the bound reached, however
the calls of index `1` fall between. -/
theorem shouldGetNewAddress_counts_dial_errors_one :
    isDialError (some (.dial "DialContext error: i/o timeout")) ∧
      (((newIPAddrFallback 1).runCalls [(0, some (.dial "DialContext error: i/o timeout")),
          (1, some (.edgeQuicDial "failed to dial to edge with quic: timeout" (.other "timeout")))]
        ).shouldGetNewAddress 0 (some (.dial "DialContext error: i/o timeout"))).1 =
        (true, some ⟨true⟩) :=
  ⟨rfl, (shouldGetNewAddress_counts_dial_errors 1 _ 0
    (some (.dial "DialContext error: i/o timeout")) rfl).1⟩

end IPAddrFallback

end Cloudflared
