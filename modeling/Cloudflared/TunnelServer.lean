import Cloudflared.EdgeAddrHandler
import Cloudflared.ProtocolFallback

/-!
# One attempt of `EdgeTunnelServer.Serve`

`Serve` gets the edge address of its index, runs one session through `serveTunnel`, asks the
edge-address handler whether to rotate, and waits for its protocol backoff. This module holds
the parts of it that compute on values: what `serveConnection` returns for a protocol and what
the collaborators did (`Attempt`), how `serveTunnel` classifies the error into an error and a
`recoverable` flag, and how `Serve` turns that flag and the handler's answer into
`shouldFallbackProtocol`. The steps of `Serve` that read or write shared state are in
`Cloudflared.Supervisor.Step`.

`serveTunnel`'s flag is the only place where the code classifies an error as not recoverable,
and `Serve` stores it as `shouldFallbackProtocol`. An `unrecoverableError`, which `serveHTTP2`
returns under post-quantum strict mode, comes out of `serveTunnel` as not recoverable
(`serveTunnel_http2_postQuantumStrict`).

## Main definitions

* `PostQuantumMode`, `Attempt`, `Attempt.registers`.
* `serveConnection`, `classifyServeError`, `serveTunnel`, `fallbackAfterRotation`.
-/

namespace Cloudflared

/-- `features.PostQuantumMode`. -/
inductive PostQuantumMode where
  | prefer
  | strict
  deriving DecidableEq, Repr

/-- What the collaborators of one `serveConnection` did: the error of the edge dial
(`DialEdgeWithProxy` for HTTP/2; `curvePreference` or `DialQuic` for QUIC) if it failed, the
post-quantum mode of the feature snapshot, what the session's `errgroup` returned, and the error a
panic became once `serveTunnel`'s `recover` wrapped it, if one happened. -/
structure Attempt where
  dialError : Option TunnelErr
  postQuantum : PostQuantumMode
  session : Option TunnelErr
  panicked : Option TunnelErr
  deriving DecidableEq, Repr

/-- The session got to run, so its control stream could register. -/
def Attempt.registers (a : Attempt) (proto : Protocol) : Bool :=
  a.dialError.isNone && !(proto = .http2 && a.postQuantum = .strict)

/-- The error of `serveConnection(…, protocol)`; its `recoverable` result is dropped by
`serveTunnel` on every path. -/
def serveConnection (proto : Protocol) (a : Attempt) : Option TunnelErr :=
  match a.dialError with
  | some e => some e
  | none =>
    match proto with
    | .quic => a.session
    | .http2 =>
      if a.postQuantum = .strict then
        some (.unrecoverable "HTTP/2 transport does not support post-quantum")
      else a.session

/-- `serveTunnel`'s `switch err := err.(type)` on a non-nil error: the error it returns and
whether it is recoverable. -/
def classifyServeError : TunnelErr → Option TunnelErr × Bool
  | .dupConnRegister t => (some (.dupConnRegister t), false)
  | .serverRegister _ cause permanent => (some cause, !permanent)
  | .edgeQuicDial t cause => (some (.edgeQuicDial t cause), false)
  | .reconnectSignal t => (some (.reconnectSignal t), true)
  | .canceled => (some .canceled, false)
  | e => (some e, !e.isUnrecoverable)

/-- `serveTunnel(…, protocol)`: the error and the `recoverable` flag. A recovered panic is
recoverable. -/
def serveTunnel (proto : Protocol) (a : Attempt) : Option TunnelErr × Bool :=
  match a.panicked with
  | some e => (some e, true)
  | none =>
    match serveConnection proto a with
    | none => (none, false)
    | some e => classifyServeError e

/-- `shouldFallbackProtocol` after `ShouldGetNewAddress`: `serveTunnel`'s flag, replaced, when
the address is rotated, by the connectivity error's `HasReachedMaxRetries()` if there is one. -/
def fallbackAfterRotation (recoverable rotate : Bool) (cErr : Option ConnectivityError) : Bool :=
  if rotate then (cErr.map (·.reachedMaxRetries)).getD recoverable else recoverable

/-- An HTTP/2 session under post-quantum strict mode ends in `serveHTTP2`'s
`unrecoverableError`, which `serveTunnel` classifies as not recoverable. -/
theorem serveTunnel_http2_postQuantumStrict (a : Attempt) (hdial : a.dialError = none)
    (hpq : a.postQuantum = .strict) (hpanic : a.panicked = none) :
    serveTunnel .http2 a =
      (some (.unrecoverable "HTTP/2 transport does not support post-quantum"), false) := by
  simp [serveTunnel, serveConnection, hdial, hpq, hpanic, classifyServeError,
    TunnelErr.isUnrecoverable]

end Cloudflared
