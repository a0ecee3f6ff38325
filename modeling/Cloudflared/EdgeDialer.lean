import Cloudflared.Errors

/-!
# Dialing the edge, through a SOCKS5 proxy or directly

`DialEdgeWithProxy(ctx, timeout, tlsConfig, edgeTCPAddr, localIP, proxyURL)` derives one dial
context, `dialCtx := context.WithTimeout(ctx, timeout)`, and makes every TCP dial under it: first
the SOCKS5 attempt of `dialViaProxy` when `proxyURL` is not empty, then, if that gave no
connection, `dialDirect`. The TLS handshake that follows runs under a deadline of its own,
`time.Now().Add(timeout)`, set on the connection.

The model reads the deadline of `dialCtx` as a time budget shared by the dials made under it,
the earlier of what is left of `ctx` and `timeout`. What the network does is an input
(`EdgeNetwork`): how `url.Parse` reads the proxy URL, how long each TCP dial takes and whether it
connects, and whether each TLS handshake succeeds. A dial that outlasts what is left of the budget
ends at the deadline with `context.DeadlineExceeded` (`dialWithin`).

A failed SOCKS5 attempt falls through to the direct dial with what it left of the budget
(`dialEdgeWithProxy_of_proxy_failed`). When it left all of it, as an unparsable URL does, the
outcome is that of a dial with no proxy (`dialEdgeWithProxy_of_proxy_failed_at_once`); when it
used the budget up, as a proxy that never answers does, the direct dial has no time left
(`dialEdgeWithProxy_hanging_proxy`).

## Main definitions

* `DialAttempt`, `dialWithin`, `ProxyURL`, `EdgeNetwork`, `EdgeConn`.
* `wrapError`, `newDialError`, `joinHostPort`.
* `dialViaProxy`, `dialDirect`, `dialEdgeWithProxy`.
-/

namespace Cloudflared

/-- What one TCP dial does on the network when nothing cuts it short: after `elapsed` time
units it connects (`.ok ()`) or fails with the error of the network. -/
structure DialAttempt where
  elapsed : Nat
  outcome : Except TunnelErr Unit

/-- A context-aware dial under a context with `remaining` time before its deadline: the
outcome and the time the dial used. -/
def dialWithin (remaining : Nat) (a : DialAttempt) : Except TunnelErr Unit × Nat :=
  if a.elapsed ≤ remaining then (a.outcome, a.elapsed) else (.error .deadlineExceeded, remaining)

theorem dialWithin_used_le (remaining : Nat) (a : DialAttempt) :
    (dialWithin remaining a).2 ≤ remaining := by
  unfold dialWithin
  split <;> simp_all

/-- `url.Parse(proxyURL)` as the proxy dial reads it: `u.Host`, `u.Hostname()`, `u.Port()`, and
`u.User` as a user name and an optional password. -/
structure ProxyURL where
  host : String
  hostname : String
  port : String
  user : Option (String × Option String)

/-- `proxy.Auth{User, Password}`. -/
structure ProxyAuth where
  user : String
  password : String

/-- What the network does for one `DialEdgeWithProxy` call: how `url.Parse` reads the proxy URL,
the error `proxy.SOCKS5` returns if any, whether its dialer is a `proxy.ContextDialer`, the SOCKS5
exchange with the proxy at an address and with some credentials, the direct TCP dial to the edge,
the TLS handshake on a connection, and the time left before the deadline of `ctx`. -/
structure EdgeNetwork where
  parseURL : String → Except TunnelErr ProxyURL
  socks5Error : Option TunnelErr
  contextDialer : Bool
  proxyDial : String → Option ProxyAuth → DialAttempt
  direct : DialAttempt
  handshake : Bool → Option TunnelErr
  ctxRemaining : Nat

/-- The TCP connection under the TLS client: through the proxy, or direct. -/
inductive EdgeConn where
  | viaProxy
  | direct
  deriving DecidableEq, Repr

/-- The connection was made through the proxy. -/
def EdgeConn.isProxied : EdgeConn → Bool
  | viaProxy => true
  | direct => false

/-- `errors.Wrap(err, message)`. -/
def wrapError (err : TunnelErr) (message : String) : TunnelErr :=
  .wrapped (message ++ ": " ++ err.text) err

/-- `newDialError(err, message)`: a `DialError` whose cause is `errors.Wrap(err, message)`. -/
def newDialError (err : TunnelErr) (message : String) : TunnelErr :=
  .dial (wrapError err message).text

/-- `net.JoinHostPort(host, port)`. -/
def joinHostPort (host port : String) : String :=
  if host.contains ':' then "[" ++ host ++ "]:" ++ port else host ++ ":" ++ port

/-- `dialViaProxy(ctx, proxyURL, address, localIP)` under `remaining` time before the deadline
of `ctx`: the connection or the error, and the time the attempt used. -/
def dialViaProxy (net : EdgeNetwork) (remaining : Nat) (proxyURL : String) :
    Except TunnelErr EdgeConn × Nat :=
  match net.parseURL proxyURL with
  | .error e => (.error (wrapError e "invalid proxy URL"), 0)
  | .ok u =>
    let auth := u.user.map fun (name, password) => ProxyAuth.mk name (password.getD "")
    let proxyAddr := if u.port = "" then joinHostPort u.hostname "1080" else u.host
    match net.socks5Error with
    | some e => (.error (wrapError e "failed to create SOCKS5 dialer"), 0)
    | none =>
      let a := net.proxyDial proxyAddr auth
      let r := if net.contextDialer then dialWithin remaining a else (a.outcome, a.elapsed)
      match r.1 with
      | .error e => (.error (wrapError e "proxy dial failed"), r.2)
      | .ok () => (.ok .viaProxy, r.2)

/-- `dialDirect(ctx, address, localIP)` under `remaining` time before the deadline of `ctx`. -/
def dialDirect (net : EdgeNetwork) (remaining : Nat) : Except TunnelErr EdgeConn :=
  match (dialWithin remaining net.direct).1 with
  | .error e => .error e
  | .ok () => .ok .direct

/-- The TLS client on a connection, under a handshake deadline of its own. -/
def handshakeTLS (net : EdgeNetwork) (conn : EdgeConn) : Except TunnelErr EdgeConn :=
  match net.handshake conn.isProxied with
  | some e => .error (newDialError e "TLS handshake with edge error")
  | none => .ok conn

/-- The direct dial and the handshake, with `remaining` time left of the dial budget. -/
def dialDirectTLS (net : EdgeNetwork) (remaining : Nat) : Except TunnelErr EdgeConn :=
  match dialDirect net remaining with
  | .error e => .error (newDialError e "DialContext error")
  | .ok conn => handshakeTLS net conn

/-- `DialEdgeWithProxy(ctx, timeout, tlsConfig, edgeTCPAddr, localIP, proxyURL)`. -/
def dialEdgeWithProxy (net : EdgeNetwork) (timeout : Nat) (proxyURL : String) :
    Except TunnelErr EdgeConn :=
  let budget := min net.ctxRemaining timeout
  let proxied : Option EdgeConn × Nat :=
    if proxyURL ≠ "" then
      match dialViaProxy net budget proxyURL with
      | (.ok conn, used) => (some conn, used)
      | (.error _, used) => (none, used)
    else (none, 0)
  match proxied.1 with
  | some conn => handshakeTLS net conn
  | none => dialDirectTLS net (budget - proxied.2)

/-- With no proxy, `DialEdgeWithProxy` is the direct dial with the whole budget. -/
theorem dialEdgeWithProxy_empty (net : EdgeNetwork) (timeout : Nat) :
    dialEdgeWithProxy net timeout "" = dialDirectTLS net (min net.ctxRemaining timeout) := by
  simp [dialEdgeWithProxy]

/-- A failed SOCKS5 attempt falls through to the direct dial, with what it left of the budget. -/
theorem dialEdgeWithProxy_of_proxy_failed (net : EdgeNetwork) (timeout : Nat) (proxyURL : String)
    (hurl : proxyURL ≠ "") (e : TunnelErr) (used : Nat)
    (hfail : dialViaProxy net (min net.ctxRemaining timeout) proxyURL = (.error e, used)) :
    dialEdgeWithProxy net timeout proxyURL =
      dialDirectTLS net (min net.ctxRemaining timeout - used) := by
  simp [dialEdgeWithProxy, hurl, hfail]

/-- A SOCKS5 attempt that fails at once, as on an unparsable URL, leaves the outcome of a dial
with no proxy. -/
theorem dialEdgeWithProxy_of_proxy_failed_at_once (net : EdgeNetwork) (timeout : Nat)
    (proxyURL : String) (hurl : proxyURL ≠ "") (e : TunnelErr)
    (hfail : dialViaProxy net (min net.ctxRemaining timeout) proxyURL = (.error e, 0)) :
    dialEdgeWithProxy net timeout proxyURL = dialEdgeWithProxy net timeout "" := by
  rw [dialEdgeWithProxy_of_proxy_failed net timeout proxyURL hurl e 0 hfail, Nat.sub_zero,
    dialEdgeWithProxy_empty]

/-- The handshake fails only with a `DialError`. -/
theorem handshakeTLS_error {net : EdgeNetwork} {conn : EdgeConn} {e : TunnelErr}
    (h : handshakeTLS net conn = .error e) : ∃ t, e = .dial t := by
  unfold handshakeTLS at h
  split at h <;> cases h
  exact ⟨_, rfl⟩

theorem dialDirectTLS_error {net : EdgeNetwork} {remaining : Nat} {e : TunnelErr}
    (h : dialDirectTLS net remaining = .error e) : ∃ t, e = .dial t := by
  unfold dialDirectTLS at h
  split at h
  · cases h
    exact ⟨_, rfl⟩
  · exact handshakeTLS_error h

/-- `DialEdgeWithProxy` fails only with a `DialError`: the proxy's own errors are dropped, and
the direct dial's and the handshake's go through `newDialError`. -/
theorem dialEdgeWithProxy_error {net : EdgeNetwork} {timeout : Nat} {proxyURL : String}
    {e : TunnelErr} (h : dialEdgeWithProxy net timeout proxyURL = .error e) : ∃ t, e = .dial t := by
  unfold dialEdgeWithProxy at h
  dsimp only at h
  split at h
  · exact handshakeTLS_error h
  · exact dialDirectTLS_error h

/-- A proxy at `socks5://10.0.0.100:1080` that never answers, in front of an edge that accepts a
direct dial after one time unit, with no deadline on `ctx` before a dial timeout of `15`. -/
def hangingProxy : EdgeNetwork where
  parseURL _ := .ok ⟨"10.0.0.100:1080", "10.0.0.100", "1080", none⟩
  socks5Error := none
  contextDialer := true
  proxyDial _ _ := ⟨60, .error (.other "i/o timeout")⟩
  direct := ⟨1, .ok ()⟩
  handshake _ := none
  ctxRemaining := 100

/-- Behind the hanging proxy, the direct dial finds the budget used up and fails, where the same
call with no proxy connects. -/
theorem dialEdgeWithProxy_hanging_proxy :
    dialEdgeWithProxy hangingProxy 15 "socks5://10.0.0.100:1080" =
        .error (newDialError .deadlineExceeded "DialContext error") ∧
      dialEdgeWithProxy hangingProxy 15 "" = .ok .direct :=
  ⟨rfl, rfl⟩

end Cloudflared
