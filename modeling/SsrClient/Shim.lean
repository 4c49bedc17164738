import SsrClient.Tunnel

/-!
# The socket shim and the TLS transport as `client.c` sees them

`tunnel.c` and `tls_cli.c` are not part of this development.  What `client.c` asks of
them is modelled from the spec's interface: a read or write is armed on one socket and
completes later, a connect or DNS lookup is outstanding until its completion arrives,
`tunnel_shutdown` begins teardown, and the TLS transport is launched, sent data, or shut
down.  Each request is recorded in the history.
-/

namespace SsrClient

namespace TunnelCtx

/-- Modelled from the spec: `socket_read` arms one read on the socket.  Arming a read while
another is outstanding breaks the one-read-in-flight rule and is recorded. -/
@[simp] def socketRead (t : TunnelCtx) (side : Side) : TunnelCtx :=
  let t := t.faultIf ((t.socket side).rdstate = .busy) (.secondRead side)
  (t.setRdstate side .busy).call (.socketRead side)

/-- Modelled from the spec: `socket_write` arms one write of `buf` on the socket, under
the same one-write-in-flight rule. -/
@[simp] def socketWrite (t : TunnelCtx) (side : Side) (buf : List UInt8) : TunnelCtx :=
  let t := t.faultIf ((t.socket side).wrstate = .busy) (.secondWrite side)
  (t.setWrstate side .busy).call (.socketWrite side buf)

/-- Modelled from the spec: `socket_connect` on `outgoing`, to `outgoing->addr`; `err` is
what it returns, and a connect is outstanding exactly when it returned 0. -/
@[simp] def socketConnect (t : TunnelCtx) (err : Int) : TunnelCtx :=
  { t.call (.socketConnect t.outgoing.addr) with connecting := err = 0 }

/-- Modelled from the spec: `socket_getaddrinfo` on `outgoing` starts a DNS lookup. -/
@[simp] def socketGetaddrinfo (t : TunnelCtx) (host : String) : TunnelCtx :=
  { t.call (.socketGetaddrinfo host) with resolving := true }

/-- Modelled from the spec: `tunnel_shutdown` begins the tunnel's teardown. -/
@[simp] def tunnelShutdown (t : TunnelCtx) : TunnelCtx :=
  { t.call .tunnelShutdown with terminated := true }

/-- Modelled from the spec: `tls_client_launch` starts the TLS transport. -/
@[simp] def tlsClientLaunch (t : TunnelCtx) : TunnelCtx :=
  { t.call .tlsClientLaunch with tls := .connecting }

/-- Modelled from the spec: `tls_client_shutdown` closes the TLS transport, which later
reports `tunnel_tls_on_shutting_down`. -/
@[simp] def tlsClientShutdown (t : TunnelCtx) : TunnelCtx :=
  { t.call .tlsClientShutdown with tls := .closing }

/-- Modelled from the spec: `tunnel->tunnel_tls_send_data` hands bytes to the TLS
transport, which forwards them upstream; the upstream then owes a reply. -/
@[simp] def tunnelTlsSendData (t : TunnelCtx) (buf : List UInt8) : TunnelCtx :=
  { t.call (.tunnelTlsSendData buf) with awaitingReply := true }

/-- `ASSERT(rdstate == socket_stop); ASSERT(wrstate == socket_stop);` on one socket. -/
@[simp] def assertStopped (t : TunnelCtx) (side : Side) : TunnelCtx :=
  (t.check .socketState ((t.socket side).rdstate = .stop)).check .socketState
    ((t.socket side).wrstate = .stop)

/-- The four stop assertions most stage handlers open with. -/
@[simp] def assertIdle (t : TunnelCtx) : TunnelCtx :=
  (t.assertStopped .incoming).assertStopped .outgoing

/-- `ASSERT(s->rdstate == socket_done); s->rdstate = socket_stop;` in `do_next`. -/
@[simp] def latchRead (t : TunnelCtx) (side : Side) : TunnelCtx :=
  (t.check .socketState ((t.socket side).rdstate = .done)).setRdstate side .stop

/-- `ASSERT(s->wrstate == socket_done); s->wrstate = socket_stop;` in `do_next`. -/
@[simp] def latchWrite (t : TunnelCtx) (side : Side) : TunnelCtx :=
  (t.check .socketState ((t.socket side).wrstate = .done)).setWrstate side .stop

end TunnelCtx

end SsrClient
