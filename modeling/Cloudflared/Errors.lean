import Mathlib

/-!
# Errors seen by the supervisor

`Supervisor.Run`, `startFirstTunnel`, `EdgeTunnelServer.Serve` and `ipAddrFallback` decide what
to do with an error by its dynamic type (`switch err.(type)`), by `errors.As` along its `Unwrap`
chain (`isQuicBroken`), and in one place by its text (`strings.Contains(err.Error(),
"Unauthorized")` in `startFirstTunnel`). `TunnelErr` has one constructor for each type those
switches name. A type declared outside `src/` carries the text its `Error` method returns; the
two types of `src/` compute theirs (`unrecoverableError` forwards to the wrapped error, and a
`DialError` is built by `newDialError` in `Cloudflared.EdgeDialer`).

A Go `error` that may be `nil` is an `Option TunnelErr`. What `ctx.Err()` returns once the
context is done is a `CtxErr`.

## Main definitions

* `TunnelErr`, `TunnelErr.text` (`Error()`), `TunnelErr.unwrap` and `TunnelErr.chain`.
* `CtxErr`, `CtxErr.err`: the two errors of a done context.
* `containsText`: `strings.Contains`.
* `isQuicBroken`: the QUIC-broken test of `selectNextProtocol`.
-/

namespace Cloudflared

/-- The error values the supervisor tells apart, one constructor for each Go type it names. -/
inductive TunnelErr where
  /-- `connection.DupConnRegisterTunnelError`. -/
  | dupConnRegister (text : String)
  /-- `connection.ServerRegisterTunnelError{Cause, Permanent}`. -/
  | serverRegister (text : String) (cause : TunnelErr) (permanent : Bool)
  /-- `*connection.EdgeQuicDialError{Cause}`, which unwraps to its cause. -/
  | edgeQuicDial (text : String) (cause : TunnelErr)
  /-- `edgediscovery.DialError`; it has a `Cause` method but no `Unwrap`. -/
  | dial (text : String)
  /-- `ReconnectSignal`. -/
  | reconnectSignal (text : String)
  /-- `context.Canceled`. -/
  | canceled
  /-- `context.DeadlineExceeded`. -/
  | deadlineExceeded
  /-- `unrecoverableError{err}`, holding the text of the wrapped `err`. -/
  | unrecoverable (inner : String)
  /-- `edgediscovery.ErrNoAddressesLeft`. -/
  | noAddressesLeft (text : String)
  /-- `*quic.IdleTimeoutError`. -/
  | idleTimeout (text : String)
  /-- `*quic.ApplicationError`. -/
  | application (text : String)
  /-- `*quic.TransportError`. -/
  | transport (text : String)
  /-- `*connection.ControlStreamError`. -/
  | controlStream (text : String)
  /-- `*connection.StreamListenerError`. -/
  | streamListener (text : String)
  /-- `*connection.DatagramManagerError`. -/
  | datagramManager (text : String)
  /-- An error wrapped by `errors.Wrap` or `errors.Wrapf`, which unwraps to its cause. -/
  | wrapped (text : String) (cause : TunnelErr)
  /-- Any other error value. -/
  | other (text : String)
  deriving DecidableEq, Repr

namespace TunnelErr

/-- `err.Error()`. -/
def text : TunnelErr → String
  | dupConnRegister t | serverRegister t _ _ | edgeQuicDial t _ | dial t | reconnectSignal t
  | noAddressesLeft t | idleTimeout t | application t | transport t | controlStream t
  | streamListener t | datagramManager t | wrapped t _ | other t => t
  | canceled => "context canceled"
  | deadlineExceeded => "context deadline exceeded"
  | unrecoverable inner => inner

/-- `errors.Unwrap(err)`. -/
def unwrap : TunnelErr → Option TunnelErr
  | edgeQuicDial _ cause | wrapped _ cause => some cause
  | _ => none

/-- The errors `errors.As` visits: `err`, then what it unwraps to, and so on. -/
def chain : TunnelErr → List TunnelErr
  | edgeQuicDial t cause => edgeQuicDial t cause :: chain cause
  | wrapped t cause => wrapped t cause :: chain cause
  | e => [e]

/-- The dynamic type is `*quic.IdleTimeoutError`. -/
def isIdleTimeout : TunnelErr → Bool
  | idleTimeout _ => true
  | _ => false

/-- The dynamic type is `*quic.TransportError`. -/
def isTransport : TunnelErr → Bool
  | transport _ => true
  | _ => false

/-- The dynamic type is `ReconnectSignal`. -/
def isReconnectSignal : TunnelErr → Bool
  | reconnectSignal _ => true
  | _ => false

/-- The dynamic type is `unrecoverableError`. -/
def isUnrecoverable : TunnelErr → Bool
  | unrecoverable _ => true
  | _ => false

end TunnelErr

/-- What `ctx.Err()` returns once `ctx` is done. -/
inductive CtxErr where
  /-- `context.Canceled`: `ctx` was cancelled. -/
  | canceled
  /-- `context.DeadlineExceeded`: the deadline of `ctx` passed. -/
  | deadlineExceeded
  deriving DecidableEq, Repr

/-- The error value `ctx.Err()` is. -/
def CtxErr.err : CtxErr → TunnelErr
  | canceled => .canceled
  | deadlineExceeded => .deadlineExceeded

/-- `strings.Contains(s, substr)`. -/
def containsText (s substr : String) : Bool :=
  s.data.tails.any (substr.data.isPrefixOf ·)

/-- `isQuicBroken(cause)`: an idle timeout, or a transport error whose text (the text of the whole
`cause`) mentions "operation not permitted". `errors.As` of a `nil` error finds nothing. -/
def isQuicBroken : Option TunnelErr → Bool
  | none => false
  | some cause =>
    cause.chain.any TunnelErr.isIdleTimeout ||
      (cause.chain.any TunnelErr.isTransport && containsText cause.text "operation not permitted")

/-- An idle timeout, however deeply wrapped by unwrapping errors, makes QUIC broken. -/
theorem isQuicBroken_of_idleTimeout_mem {cause e : TunnelErr} (he : e ∈ cause.chain)
    (hidle : e.isIdleTimeout) : isQuicBroken (some cause) := by
  simp only [isQuicBroken, Bool.or_eq_true, List.any_eq_true]
  exact .inl ⟨e, he, hidle⟩

example : isQuicBroken (some (.edgeQuicDial "failed to dial to edge with quic: timeout"
    (.idleTimeout "timeout: no recent network activity"))) := by decide

example : isQuicBroken (some (.transport "write: operation not permitted")) := by decide

end Cloudflared
