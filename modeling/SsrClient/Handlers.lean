import SsrClient.InitialPackage
import SsrClient.Shim

/-!
# The stage handlers of `client.c`

One definition per function of `client.c`, in the file's order, each a translation of
the C body: the `ASSERT`s it opens with, its branches on `result` and on the collaborators'
answers, the I/O it arms and the stage it moves to.  `do_next` dispatches a completion to
the handler of the current stage; the TLS callbacks are entered by the TLS transport.
-/

namespace SsrClient

open TunnelCtx

/-- `can_auth_none`: unauthenticated clients are let in. -/
def canAuthNone : Bool := true

/-- `can_auth_passwd`: password authentication is not offered. -/
def canAuthPasswd : Bool := false

/-- `can_access`: every address in a debug build; in a build with `NDEBUG`, every IPv4 or
IPv6 address except `127.0.0.0/8`, `::1` and `::ffff:127.x.x.x`. -/
def canAccess (ndebug : Bool) (addr : SockAddr) : Bool :=
  if !ndebug then true
  else
    match addr with
    | .inet d _ => d >>> 24 != 0x7F
    | .inet6 a b c d _ =>
        if a = 0 ∧ b = 0 ∧ c = 0 ∧ d = 1 then false
        else if a = 0 ∧ b = 0 ∧ c = 0xFFFF ∧ d >>> 24 = 0x7F then false
        else true
    | .unspec => false

/-- `(size_t)result`. -/
def sizeT (result : Int) : Nat := (result % 2 ^ 64).toNat

/-- The replies `client.c` writes when a CONNECT request fails. -/
def hostUnreachable : List UInt8 := [5, 4, 0, 1, 0, 0, 0, 0, 0, 0]
/-- `05 02`: connection not allowed by ruleset. -/
def connectionNotAllowed : List UInt8 := [5, 2, 0, 1, 0, 0, 0, 0, 0, 0]
/-- `05 05`: connection refused. -/
def connectionRefused : List UInt8 := [5, 5, 0, 1, 0, 0, 0, 0, 0, 0]

section Handlers

variable (env : ServerEnv) (a : Answers)

/-- `do_handshake`: parse the greeting read on `incoming` and answer it. -/
def doHandshake (t : TunnelCtx) : TunnelCtx :=
  let t := t.assertStopped .incoming
  if t.incoming.result < 0 then t.tunnelShutdown
  else
    let t := { t with parser := a.parse.parser }
    if a.parse.err = .ok then { t with stage := .handshake }.socketRead .incoming
    else if a.parse.size ≠ 0 then t.tunnelShutdown
    else if a.parse.err ≠ .authSelect then t.tunnelShutdown
    else if S5AuthMethod.none ∈ t.parser.methods ∧ canAuthNone then
      { t with stage := .handshakeReplied }.socketWrite .incoming [5, 0]
    else if S5AuthMethod.passwd ∈ t.parser.methods ∧ canAuthPasswd then t.tunnelShutdown
    else { t with stage := .kill }.socketWrite .incoming [5, 255]

/-- `do_handshake_auth`: unreachable, password authentication is not implemented. -/
def doHandshakeAuth (t : TunnelCtx) : TunnelCtx :=
  (t.fault (.unreachable .doHandshakeAuth)).tunnelShutdown

/-- `do_wait_s5_request`: the method reply went out; read the request. -/
def doWaitS5Request (t : TunnelCtx) : TunnelCtx :=
  let t := t.assertStopped .incoming
  if t.incoming.result < 0 then t.tunnelShutdown
  else { t with stage := .s5Request }.socketRead .incoming

/-- `do_connect_ssr_server`: connect to `outgoing->addr` if the access policy allows it. -/
def doConnectSsrServer (t : TunnelCtx) : TunnelCtx :=
  let t := t.assertIdle
  if !canAccess env.ndebug t.outgoing.addr then
    { t with stage := .kill }.socketWrite .incoming connectionNotAllowed
  else
    let t := t.socketConnect a.connect
    if a.connect ≠ 0 then t.tunnelShutdown
    else { t with stage := .connectingSsrServer }

/-- `do_parse_s5_request`: parse the request read on `incoming`.  A CONNECT request creates
`init_pkg` and the cipher and starts the upstream connection, over TLS or raw TCP. -/
def doParseS5Request (t : TunnelCtx) : TunnelCtx :=
  let t := t.assertIdle
  if t.incoming.result < 0 then t.tunnelShutdown
  else
    let size := UInt64.ofNat t.incoming.result.toNat
    let t := t.call (.socks5AddressParse (t.incoming.buf.drop 3) (size - 3))
    let t := { t with parser := a.parse.parser }
    if a.parse.err = .ok then { t with stage := .s5Request }.socketRead .incoming
    else if a.parse.size ≠ 0 then t.tunnelShutdown
    else if a.parse.err ≠ .execCmd then t.tunnelShutdown
    else
      match t.parser.cmd with
      | .tcpBind => t.tunnelShutdown
      | .udpAssoc =>
          { t with stage := .s5UdpAccoc }.socketWrite .incoming
            (env.buildUdpAssocPackage env.config.udp env.config.listenHost
              env.config.listenPort t.incoming.buf)
      | .tcpConnect =>
          let t := { t.call (.tunnelCipherCreate 1452) with
            initPkg := some (initialPackageCreate t.parser), cipher := some ⟨1452⟩ }
          if env.config.overTlsEnable then { t with stage := .tlsConnecting }.tlsClientLaunch
          else
            match env.convertUniversalAddress env.config.remoteHost env.config.remotePort with
            | none =>
                { t with stage := .resolveSsrServerHostDone }.socketGetaddrinfo
                  env.config.remoteHost
            | some addr => doConnectSsrServer env a (t.setSocket .outgoing { t.outgoing with addr })

/-- The resolved address with the configured port patched in by family. -/
def SockAddr.withPort (port : UInt16) : SockAddr → SockAddr
  | .inet d _ => .inet d port
  | .inet6 a b c d _ => .inet6 a b c d port
  | .unspec => .unspec

@[simp] theorem SockAddr.withPort_withPort (port : UInt16) (addr : SockAddr) :
    (addr.withPort port).withPort port = addr.withPort port := by
  cases addr <;> rfl

/-- `do_resolve_ssr_server_host_aftercare`: answer a failed lookup with `05 04`; otherwise
patch the configured port into the resolved address and connect. -/
def doResolveSsrServerHostAftercare (t : TunnelCtx) : TunnelCtx :=
  let t := t.assertIdle
  if t.outgoing.result < 0 then { t with stage := .kill }.socketWrite .incoming hostUnreachable
  else
    let t := t.faultIf (t.outgoing.addr = .unspec) (.unreachable .addressFamily)
    doConnectSsrServer env a (t.setSocket .outgoing
      { t.outgoing with addr := t.outgoing.addr.withPort env.config.remotePort })

/-- `do_connect_ssr_server_done`: on a connected upstream, encrypt a clone of `init_pkg`
and write it; otherwise answer `05 05`.  The trailing `UNREACHABLE()` of the C body follows
two returning branches and is left out. -/
def doConnectSsrServerDone (t : TunnelCtx) : TunnelCtx :=
  let t := t.assertIdle
  if t.outgoing.result = 0 then
    let t := t.call (.tunnelCipherClientEncrypt .initPkg (t.initPkg.getD []) a.encrypt)
    match a.encrypt with
    | none => t.tunnelShutdown
    | some buf => { t with stage := .ssrAuthSent }.socketWrite .outgoing buf
  else { t with stage := .kill }.socketWrite .incoming connectionRefused

/-- `do_socks5_reply_success`: write `05 00 00 ‖ init_pkg` to the client. -/
def doSocks5ReplySuccess (t : TunnelCtx) : TunnelCtx :=
  let t := t.assertIdle
  { t with stage := .authComplitionDone }.socketWrite .incoming ([5, 0, 0] ++ t.initPkg.getD [])

/-- `do_ssr_auth_sent`: the encrypted `init_pkg` went out; wait for feedback if the cipher
asks for it, else reply success. -/
def doSsrAuthSent (t : TunnelCtx) : TunnelCtx :=
  let t := t.assertIdle
  if t.outgoing.result < 0 then t.tunnelShutdown
  else if a.needFeedback then { t with stage := .ssrWaitingFeedback }.socketRead .outgoing
  else doSocks5ReplySuccess t

/-- `do_ssr_receipt_for_feedback`: decrypt the feedback frame read on `outgoing` and write
the receipt the cipher produced.  The flag is `done`: whether a receipt was written. -/
def doSsrReceiptForFeedback (t : TunnelCtx) : TunnelCtx × Bool :=
  let t := t.assertIdle
  if t.outgoing.result < 0 then (t.tunnelShutdown, false)
  else
    let buf := t.outgoing.buf.take t.outgoing.result.toNat
    let t := ((t.call (.tunnelCipherClientDecrypt .outgoing buf a.decrypt)).check .decryptOk
      a.decrypt.ok).check .decryptConsumed (a.decrypt.buf.length = 0)
    match a.decrypt.feedback with
    | some feedback =>
        ({ t with stage := .ssrReceiptOfFeedbackSent }.socketWrite .outgoing feedback, true)
    | none => (t, false)

/-- `do_launch_streaming`: the success reply went out; read both sockets. -/
def doLaunchStreaming (t : TunnelCtx) : TunnelCtx :=
  let t := t.assertIdle
  if t.incoming.result < 0 then t.tunnelShutdown
  else (({ t with stage := .streaming }.socketRead .incoming).socketRead .outgoing)

/-- `tunnel_extract_data`: copy `(size_t)result` bytes of the last read into a buffer
(`buffer_create_from`) and run it through the cipher, encrypting what the client sent and
decrypting what the upstream sent; `none` is the NULL the caller receives when the cipher
fails.  A failed read asks for `2^64 + result` bytes: a copy longer than what the read
delivered is recorded as an overread, and the cipher is handed the bytes there are. -/
def tunnelExtractData (side : Side) (t : TunnelCtx) : TunnelCtx × Option (List UInt8) :=
  let s := t.socket side
  let len := sizeT s.result
  let t := t.faultIf (s.buf.length < len) (.overread side len)
  let buf := s.buf.take len
  match side with
  | .incoming => (t.call (.tunnelCipherClientEncrypt .incoming buf a.encrypt), a.encrypt)
  | .outgoing =>
      let t := t.call (.tunnelCipherClientDecrypt .outgoing buf a.decrypt)
      let t := t.faultIf a.decrypt.feedback.isSome (.assertion .noFeedback)
      (t, if a.decrypt.ok then some a.decrypt.buf else none)

/-- `tunnel_dying`: release the cipher and `init_pkg` and free the context. -/
def tunnelDying (t : TunnelCtx) : TunnelCtx :=
  let t := t.callIf t.cipher.isSome .tunnelCipherRelease
  { t.call .bufferRelease with cipher := none, initPkg := none, dead := true }

/-- `tunnel_tls_do_launch_streaming`: the success reply went out; read the client. -/
def tunnelTlsDoLaunchStreaming (t : TunnelCtx) : TunnelCtx :=
  let t := t.assertIdle
  if t.incoming.result < 0 then t.tlsClientShutdown
  else { t with stage := .tlsStreaming }.socketRead .incoming

/-- `tunnel_tls_client_incoming_streaming`: a write to the client completed, or the client
sent bytes, which go to the TLS transport encrypted; the read is armed again either way. -/
def tunnelTlsClientIncomingStreaming (side : Side) (t : TunnelCtx) : TunnelCtx :=
  let t := t.check .incomingSocket (side = .incoming)
  let s := t.socket side
  let t := t.check .socketState
    ((s.wrstate = .done ∧ s.rdstate ≠ .done) ∨ (s.wrstate ≠ .done ∧ s.rdstate = .done))
  if s.wrstate = .done then t.setWrstate side .stop
  else if s.rdstate = .done then
    let (t, buf) := tunnelExtractData a side (t.setRdstate side .stop)
    let t := match buf with
      | some buf => t.tunnelTlsSendData buf
      | none => t.tlsClientShutdown
    t.socketRead side
  else t.fault (.assertion .socketState)

/-- Modelled from the spec: `tunnel_traditional_streaming` (in `tunnel.c`).  A read
completion on one socket sends the transformed bytes to the other; a write completion
re-arms the read whose bytes it carried; a negative result shuts the tunnel down. -/
def tunnelTraditionalStreaming (side : Side) (t : TunnelCtx) : TunnelCtx :=
  let s := t.socket side
  let t := t.check .socketState
    ((s.wrstate = .done ∧ s.rdstate ≠ .done) ∨ (s.wrstate ≠ .done ∧ s.rdstate = .done))
  if s.wrstate = .done then
    let t := t.setWrstate side .stop
    if s.result < 0 then t.tunnelShutdown else t.socketRead side.other
  else if s.rdstate = .done then
    let t := t.setRdstate side .stop
    if s.result < 0 then t.tunnelShutdown
    else
      let (t, buf) := tunnelExtractData a side t
      match buf with
      | some buf => t.socketWrite side.other buf
      | none => t.tunnelShutdown
  else t.fault (.assertion .socketState)

section Streaming

variable {a : Answers} {u : TunnelCtx} {side : Side}

/-- `tunnel_traditional_streaming` on a completed read, with no write of the same socket
done: a failed read shuts the tunnel down, and otherwise what `tunnel_extract_data` gives
back is written to the other socket. -/
theorem tunnelTraditionalStreaming_readDone {r : Int} {data : List UInt8}
    (wr : (u.socket side).wrstate ≠ .done) :
    tunnelTraditionalStreaming a side
        (u.setSocket side { u.socket side with rdstate := .done, result := r, buf := data }) =
      let t := u.setSocket side { u.socket side with rdstate := .stop, result := r, buf := data }
      if r < 0 then t.tunnelShutdown
      else
        let (t, buf) := tunnelExtractData a side t
        match buf with
        | some buf => t.socketWrite side.other buf
        | none => t.tunnelShutdown := by
  cases side <;> simp only [socket_incoming, socket_outgoing] at wr <;>
    simp only [tunnelTraditionalStreaming, socket_incoming, socket_outgoing, setSocket_incoming,
      setSocket_outgoing, check, faultIf, setRdstate, wr, reduceCtorEq, ↓reduceIte, ne_eq,
      not_false_eq_true, and_true, and_false, or_true, decide_True, Bool.not_true,
      Bool.false_eq_true, List.append_nil, Side.other_incoming, Side.other_outgoing]

/-- `tunnel_traditional_streaming` on a completed write, with no read of the same socket
done: a failed write shuts the tunnel down, and otherwise the read of the other socket, whose
bytes the write carried, is armed again. -/
theorem tunnelTraditionalStreaming_writeDone {r : Int} (rd : (u.socket side).rdstate ≠ .done) :
    tunnelTraditionalStreaming a side
        (u.setSocket side { u.socket side with wrstate := .done, result := r }) =
      let t := u.setSocket side { u.socket side with wrstate := .stop, result := r }
      if r < 0 then t.tunnelShutdown else t.socketRead side.other := by
  cases side <;> simp only [socket_incoming, socket_outgoing] at rd <;>
    simp only [tunnelTraditionalStreaming, socket_incoming, socket_outgoing, setSocket_incoming,
      setSocket_outgoing, check, faultIf, setWrstate, rd, reduceCtorEq, ↓reduceIte, ne_eq,
      not_false_eq_true, and_true, and_false, or_false, true_and, decide_True, Bool.not_true,
      Bool.false_eq_true, List.append_nil, not_true_eq_false, Side.other_incoming,
      Side.other_outgoing]

end Streaming

/-- `do_next`: the stage machine, entered by every read, write, connect and DNS
completion on `side`. -/
def doNext (side : Side) (t : TunnelCtx) : TunnelCtx :=
  match t.stage with
  | .handshake => doHandshake a (t.latchRead .incoming)
  | .handshakeAuth => doHandshakeAuth t
  | .handshakeReplied => doWaitS5Request (t.latchWrite .incoming)
  | .s5Request => doParseS5Request env a (t.latchRead .incoming)
  | .s5UdpAccoc => (t.latchWrite .incoming).tunnelShutdown
  | .resolveSsrServerHostDone => doResolveSsrServerHostAftercare env a t
  | .connectingSsrServer => doConnectSsrServerDone a t
  | .ssrAuthSent => doSsrAuthSent a (t.latchWrite .outgoing)
  | .ssrWaitingFeedback =>
      match doSsrReceiptForFeedback a (t.latchRead .outgoing) with
      | (t, true) => t
      | (t, false) => doSocks5ReplySuccess t
  | .ssrReceiptOfFeedbackSent => doSocks5ReplySuccess (t.latchWrite .outgoing)
  | .authComplitionDone =>
      if env.config.overTlsEnable then tunnelTlsDoLaunchStreaming (t.latchWrite .incoming)
      else doLaunchStreaming (t.latchWrite .incoming)
  | .tlsStreaming => tunnelTlsClientIncomingStreaming a side t
  | .streaming => tunnelTraditionalStreaming a side t
  | .kill => t.tunnelShutdown
  | .tlsConnecting | .tlsFirstPackage => t.fault (.unreachable .doNext)

/-- `tunnel_tls_on_connection_established`: encrypt a clone of `init_pkg` and send it over
TLS. -/
def tunnelTlsOnConnectionEstablished (t : TunnelCtx) : TunnelCtx :=
  let t := t.assertIdle
  let t := t.call (.tunnelCipherClientEncrypt .initPkg (t.initPkg.getD []) a.encrypt)
  match a.encrypt with
  | none => t.tlsClientShutdown
  | some buf => { t with stage := .tlsFirstPackage }.tunnelTlsSendData buf

/-- `tunnel_tls_on_data_received`: the first frame from upstream is decrypted and answered
with the success reply; a frame in any other stage trips `ASSERT(false)`. -/
def tunnelTlsOnDataReceived (data : List UInt8) (t : TunnelCtx) : TunnelCtx :=
  if t.stage = .tlsFirstPackage then
    let t := t.call (.tunnelCipherClientDecrypt .tls data a.decrypt)
    if !a.decrypt.ok then t.tlsClientShutdown
    else doSocks5ReplySuccess (t.check .noFeedback a.decrypt.feedback.isNone)
  else t.fault (.assertion .tlsStage)

end Handlers

end SsrClient
