import Mathlib.Algebra.Group.Int
import Mathlib.Algebra.Group.Nat.Basic
import Mathlib.Data.List.Basic

/-!
# The tunnel record of the SOCKS5 client

`client.c` drives one `struct tunnel_ctx` per accepted SOCKS5 client: two sockets, the
`client_ctx` it hangs off `tunnel->data`, and the stage of its session.  This file fixes
that record, the collaborators' answers a handler may receive, and the history of a run:
every completion delivered to the tunnel and every call it makes, in order.

The socket shim (`tunnel.c`), the SOCKS5 parser (`s5.c`), the cipher and the TLS
transport are not part of `client.c`.  Their state enters the record only as far as
`client.c` reads it; their answers arrive with each event.
-/

namespace SsrClient

/-- `enum socket_state`: a read or write is outstanding, has completed and awaits the
stage machine, or is idle. -/
inductive SocketState
  | busy
  | done
  | stop
  deriving DecidableEq, Repr

/-- The two sockets of a tunnel: toward the SOCKS client and toward the upstream. -/
inductive Side
  | incoming
  | outgoing
  deriving DecidableEq, Repr

/-- The other socket of the tunnel. -/
def Side.other : Side → Side
  | .incoming => .outgoing
  | .outgoing => .incoming

@[simp] theorem Side.other_incoming : Side.incoming.other = .outgoing := rfl
@[simp] theorem Side.other_outgoing : Side.outgoing.other = .incoming := rfl

/-- `union sockaddr_universal` as `can_access` reads it: the address words in host order
(as `ntohl` returns them) and the port. -/
inductive SockAddr
  | inet (addr : UInt32) (port : UInt16)
  | inet6 (a b c d : UInt32) (port : UInt16)
  | unspec
  deriving DecidableEq, Repr

/-- `enum s5_auth_method`. -/
inductive S5AuthMethod
  | none
  | gssapi
  | passwd
  deriving DecidableEq, Repr

/-- `enum s5_cmd`. -/
inductive S5Cmd
  | tcpConnect
  | tcpBind
  | udpAssoc
  deriving DecidableEq, Repr

/-- `enum s5_atyp`. -/
inductive S5Atyp
  | ipv4
  | ipv6
  | host
  deriving DecidableEq, Repr

/-- `enum s5_err`: `ok` is the parser's "need more data". -/
inductive S5Err
  | ok
  | authSelect
  | authVerify
  | execCmd
  | bad (code : Nat)
  deriving DecidableEq, Repr

/-- The fields of `s5_ctx` that `client.c` reads: the offered methods
(`s5_auth_methods`), and the command, address type, address bytes and port of a request. -/
structure S5Ctx where
  methods : List S5AuthMethod
  cmd : S5Cmd
  atyp : S5Atyp
  daddr : List UInt8
  dport : UInt16
  deriving DecidableEq, Repr

/-- `s5_init`: a parser that has seen nothing. -/
def S5Ctx.init : S5Ctx := ⟨[], .tcpConnect, .ipv4, [], 0⟩

/-- What one call of `s5_parse` leaves: the parser, its status, and `size`, the number of
input bytes it did not consume. -/
structure Parsed where
  parser : S5Ctx
  err : S5Err
  size : Nat
  deriving DecidableEq, Repr

/-- What `tunnel_cipher_client_decrypt` gives back: whether it returned `ssr_ok`, the bytes
left in the buffer, and the feedback buffer it may allocate. -/
structure Decrypted where
  ok : Bool
  buf : List UInt8
  feedback : Option (List UInt8)
  deriving DecidableEq, Repr

/-- The collaborators' answers during one handler run.  A handler calls each of them at
most once, so one record per event covers every answer it can receive. -/
structure Answers where
  parse : Parsed
  encrypt : Option (List UInt8)
  decrypt : Decrypted
  needFeedback : Bool
  connect : Int

/-- The `struct server_config` fields `client.c` reads. -/
structure ServerConfig where
  remoteHost : String
  remotePort : UInt16
  listenHost : String
  listenPort : UInt16
  udp : Bool
  overTlsEnable : Bool

/-- `struct server_env_t` with the pure helpers `client.c` calls on it, and whether the
file was compiled with `NDEBUG`. -/
structure ServerEnv where
  config : ServerConfig
  ndebug : Bool
  convertUniversalAddress : String → UInt16 → Option SockAddr
  buildUdpAssocPackage : Bool → String → UInt16 → List UInt8 → List UInt8

/-- `enum tunnel_stage`, in the order of its declaration. -/
inductive TunnelStage
  | handshake
  | handshakeAuth
  | handshakeReplied
  | s5Request
  | s5UdpAccoc
  | tlsConnecting
  | tlsFirstPackage
  | tlsStreaming
  | resolveSsrServerHostDone
  | connectingSsrServer
  | ssrAuthSent
  | ssrWaitingFeedback
  | ssrReceiptOfFeedbackSent
  | authComplitionDone
  | streaming
  | kill
  deriving DecidableEq, Repr

/-- The buffer a cipher call transforms: a clone of `init_pkg`, bytes read from a socket,
or a frame handed over by the TLS transport. -/
inductive Source
  | initPkg
  | incoming
  | outgoing
  | tls
  deriving DecidableEq, Repr

/-- The calls `client.c` makes to its collaborators. -/
inductive Call
  | socketRead (side : Side)
  | socketWrite (side : Side) (buf : List UInt8)
  | socketConnect (addr : SockAddr)
  | socketGetaddrinfo (host : String)
  | socks5AddressParse (window : List UInt8) (len : UInt64)
  | tunnelShutdown
  | tlsClientLaunch
  | tlsClientShutdown
  | tunnelTlsSendData (buf : List UInt8)
  | tunnelCipherCreate (mtu : Nat)
  | tunnelCipherClientEncrypt (src : Source) (buf : List UInt8) (result : Option (List UInt8))
  | tunnelCipherClientDecrypt (src : Source) (buf : List UInt8) (result : Decrypted)
  | tunnelCipherRelease
  | bufferRelease
  deriving DecidableEq, Repr

/-- What an `ASSERT` of `client.c` checks. -/
inductive Assertion
  | socketState
  | incomingSocket
  | decryptOk
  | decryptConsumed
  | noFeedback
  | tlsStage
  deriving DecidableEq, Repr

/-- Where `UNREACHABLE()` stands. -/
inductive Site
  | doNext
  | doHandshakeAuth
  | addressFamily
  deriving DecidableEq, Repr

/-- Broken expectations: a false `ASSERT`, a reached `UNREACHABLE()`, a read (write) armed
on a socket whose read (write) is still outstanding, or a copy of `len` bytes out of a read
buffer that the read did not fill. -/
inductive Fault
  | assertion (what : Assertion)
  | unreachable (site : Site)
  | secondRead (side : Side)
  | secondWrite (side : Side)
  | overread (side : Side) (len : Nat)
  deriving DecidableEq, Repr

/-- The completions and callbacks the event loop delivers to a tunnel, and `client_shutdown`
reaching it in the tunnel set. -/
inductive Event
  | readDone (side : Side) (result : Int) (data : List UInt8)
  | writeDone (side : Side) (result : Int)
  | outgoingConnected (result : Int)
  | getaddrinfoDone (result : Int) (addr : SockAddr)
  | timeoutExpire (side : Side)
  | tlsConnectionEstablished
  | tlsDataReceived (data : List UInt8)
  | tlsShuttingDown
  | clientShutdown
  | dying
  deriving DecidableEq, Repr

/-- One entry of a run's history. -/
inductive Obs
  | event (e : Event)
  | call (c : Call)
  | fault (f : Fault)
  deriving DecidableEq, Repr

/-- `struct socket_ctx`: the read and write states, the outcome of the last completion, the
bytes of the last read and the peer address. -/
structure SocketCtx where
  rdstate : SocketState
  wrstate : SocketState
  result : Int
  buf : List UInt8
  addr : SockAddr
  deriving DecidableEq, Repr

/-- An idle socket with nothing read. -/
def SocketCtx.idle : SocketCtx := ⟨.stop, .stop, 0, [], .unspec⟩

/-- `struct tunnel_cipher_ctx`, opaque to `client.c` beyond the MTU it was created for. -/
structure TunnelCipherCtx where
  mtu : Nat
  deriving DecidableEq, Repr

/-- How far the TLS transport (`tls_cli.c`) has got: not launched, connecting, connected,
or closing after `tls_client_shutdown`. -/
inductive TlsPhase
  | idle
  | connecting
  | connected
  | closing
  deriving DecidableEq, Repr

/-- `struct tunnel_ctx` with its `client_ctx` laid flat, the work the shim and the TLS
transport still owe it, and the history of the run.  `awaitingReply` says that bytes went
to the TLS transport and no frame has come back since; `terminated` is set by
`tunnel_shutdown`, `dead` once `tunnel_dying` has freed the context.  No function of
`client.c` reads `awaitingReply` or `trace`. -/
structure TunnelCtx where
  incoming : SocketCtx
  outgoing : SocketCtx
  cipher : Option TunnelCipherCtx
  initPkg : Option (List UInt8)
  parser : S5Ctx
  stage : TunnelStage
  connecting : Bool
  resolving : Bool
  tls : TlsPhase
  awaitingReply : Bool
  terminated : Bool
  dead : Bool
  trace : List Obs
  deriving DecidableEq, Repr

namespace TunnelCtx

/-- The socket on one side. -/
def socket (t : TunnelCtx) : Side → SocketCtx
  | .incoming => t.incoming
  | .outgoing => t.outgoing

/-- Replace the socket on one side. -/
def setSocket (t : TunnelCtx) : Side → SocketCtx → TunnelCtx
  | .incoming, s => { t with incoming := s }
  | .outgoing, s => { t with outgoing := s }

@[simp] theorem socket_incoming (t : TunnelCtx) : t.socket .incoming = t.incoming := rfl
@[simp] theorem socket_outgoing (t : TunnelCtx) : t.socket .outgoing = t.outgoing := rfl
@[simp] theorem setSocket_incoming (t : TunnelCtx) (s : SocketCtx) :
    t.setSocket .incoming s = { t with incoming := s } := rfl
@[simp] theorem setSocket_outgoing (t : TunnelCtx) (s : SocketCtx) :
    t.setSocket .outgoing s = { t with outgoing := s } := rfl
@[simp] theorem setSocket_stage (t : TunnelCtx) (side : Side) (s : SocketCtx) :
    (t.setSocket side s).stage = t.stage := by
  cases side <;> rfl

/-- Set the read state of one socket. -/
@[simp] def setRdstate (t : TunnelCtx) (side : Side) (state : SocketState) : TunnelCtx :=
  t.setSocket side { t.socket side with rdstate := state }

/-- Set the write state of one socket. -/
@[simp] def setWrstate (t : TunnelCtx) (side : Side) (state : SocketState) : TunnelCtx :=
  t.setSocket side { t.socket side with wrstate := state }

/-- Append one entry to the history. -/
@[simp] def record (t : TunnelCtx) (o : Obs) : TunnelCtx := { t with trace := t.trace ++ [o] }

theorem record_stage (t : TunnelCtx) (o : Obs) : (t.record o).stage = t.stage := rfl

/-- Record a call to a collaborator. -/
@[simp] def call (t : TunnelCtx) (c : Call) : TunnelCtx := t.record (.call c)

/-- Record a broken expectation. -/
@[simp] def fault (t : TunnelCtx) (f : Fault) : TunnelCtx := t.record (.fault f)

/-- Record the call `c` when `cond` holds, as code guarded by `if (cond)` makes it. -/
@[simp] def callIf (t : TunnelCtx) (cond : Bool) (c : Call) : TunnelCtx :=
  { t with trace := t.trace ++ if cond then [.call c] else [] }

/-- Record the broken expectation `f` when `broken` holds; nothing else changes either way. -/
@[simp] def faultIf (t : TunnelCtx) (broken : Bool) (f : Fault) : TunnelCtx :=
  { t with trace := t.trace ++ if broken then [.fault f] else [] }

/-- `ASSERT(cond)`: a false condition is recorded and the run goes on, as in a build with
`NDEBUG`; a debug build stops at the first recorded assertion. -/
@[simp] def check (t : TunnelCtx) (what : Assertion) (cond : Bool) : TunnelCtx :=
  t.faultIf (!cond) (.assertion what)

end TunnelCtx

end SsrClient
