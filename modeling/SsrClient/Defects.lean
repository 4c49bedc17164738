import SsrClient.Replies

/-!
# Five departures from the stage machine's contract

A failed read of the obfuscation feedback tears the tunnel down and then writes the
success reply all the same; on the TLS path every frame after the first trips
`ASSERT(false)` and is dropped, a failed read of the client is copied as `2^64 + result`
bytes, encrypted and sent as if it had succeeded, and a failed encryption re-arms the read
after `tls_client_shutdown`; `do_parse_s5_request` hands `socks5_address_parse` the length
`size - 3` before knowing that three bytes were read; and the access policy is asked about
the upstream server's address, never about the destination a CONNECT request names.
-/

namespace SsrClient

open TunnelCtx

section Feedback

variable {env : ServerEnv} {a : Answers} {t : TunnelCtx} {r : Int} {data : List UInt8}

/-- `do_ssr_receipt_for_feedback` shuts the tunnel down on a failed read and returns
`false`, and `do_next` answers `false` with `do_socks5_reply_success`: the success reply is
written after `tunnel_shutdown` and the stage moves on to `auth_complition_done`. -/
theorem feedback_read_error_replies (reachable : Reachable env t) (live : t.terminated = false)
    (stage : t.stage = .ssrWaitingFeedback) (failed : r < 0) :
    (step env a t (.readDone .outgoing r data)).terminated = true ∧
      (step env a t (.readDone .outgoing r data)).stage = .authComplitionDone ∧
      (step env a t (.readDone .outgoing r data)).trace = t.trace ++
        [.event (.readDone .outgoing r data), .call .tunnelShutdown,
          .call (.socketWrite .incoming (successReply t.parser))] := by
  have inv := Inv.of_reachable reachable
  have shape := inv.shape live
  simp only [Shape, stage, flight_eq_iff, Flight.quiet] at shape
  obtain ⟨-, inRd, inWr, outRd, outWr, -⟩ := shape
  have progress := inv.progress
  simp only [Progress, stage] at progress
  have initPkg := inv.common.initPkg
  simp only [progress.2.1, inv.alive live, and_self, ite_true] at initPkg
  simp only [step, dispatch, doNext, deliver_stage, record_stage, stage]
  simp [doSsrReceiptForFeedback, doSocks5ReplySuccess, deliver, failed, inRd, inWr, outWr,
    initPkg, successReply]

/-- The CONNECT of `connectRun` with a cipher that asks for feedback: after the encrypted
`init_pkg` is written the tunnel waits for the upstream's feedback. -/
def feedbackRun : List (Answers × Event) :=
  [(answers greeting, .readDone .incoming 3 [5, 1, 0]),
    (answers greeting, .writeDone .incoming 2),
    (answers connectLoopback, .readDone .incoming 10 [5, 1, 0, 1, 127, 0, 0, 1, 0x1F, 0x90]),
    (answers connectLoopback, .outgoingConnected 0),
    ({ answers connectLoopback with needFeedback := true }, .writeDone .outgoing 3)]

/-- The tunnel at the end of `feedbackRun`. -/
def feedbackTunnel : TunnelCtx := (run rawEnv initDoneCb feedbackRun).getD initDoneCb

/-- The feedback read fails with `ECONNRESET` (-104): the tunnel is shut down, then told the
client the CONNECT succeeded. -/
theorem feedbackTunnel_reset_replies :
    Reachable rawEnv feedbackTunnel ∧
      Enabled feedbackTunnel (.readDone .outgoing (-104) []) ∧
      (step rawEnv (answers connectLoopback) feedbackTunnel
        (.readDone .outgoing (-104) [])).terminated = true ∧
      (step rawEnv (answers connectLoopback) feedbackTunnel (.readDone .outgoing (-104) [])).stage =
        .authComplitionDone ∧
      (step rawEnv (answers connectLoopback) feedbackTunnel (.readDone .outgoing (-104) [])).trace =
        feedbackTunnel.trace ++ [.event (.readDone .outgoing (-104) []), .call .tunnelShutdown,
          .call (.socketWrite .incoming (successReply feedbackTunnel.parser))] :=
  have reachable : Reachable rawEnv feedbackTunnel :=
    reachable_of_run .init (by decide : run rawEnv initDoneCb feedbackRun = some feedbackTunnel)
  ⟨reachable, by decide, feedback_read_error_replies reachable (by decide) (by decide) (by decide)⟩

end Feedback

section Frames

variable {env : ServerEnv} {a : Answers} {t : TunnelCtx} {data : List UInt8}

/-- Outside `tls_first_package`, `tunnel_tls_on_data_received` reaches `ASSERT(false)`: the
frame is neither decrypted nor written to the client, and nothing changes but the record
that the upstream owed a reply. -/
theorem later_frame_trips_assert (later : t.stage ≠ .tlsFirstPackage) :
    step env a t (.tlsDataReceived data) =
      { t with
        awaitingReply := false
        trace := t.trace ++ [.event (.tlsDataReceived data), .fault (.assertion .tlsStage)] } := by
  simp [step, dispatch, deliver, tunnelTlsOnDataReceived, later]

/-- `rawEnv` with the upstream reached over TLS. -/
def tlsEnv : ServerEnv := { rawEnv with config := { rawEnv.config with overTlsEnable := true } }

/-- The CONNECT of `connectRun` over TLS: the transport connects, the encrypted `init_pkg`
is sent, and the upstream's first frame is answered with the success reply. -/
def tlsRun : List (Answers × Event) :=
  [(answers greeting, .readDone .incoming 3 [5, 1, 0]),
    (answers greeting, .writeDone .incoming 2),
    (answers connectLoopback, .readDone .incoming 10 [5, 1, 0, 1, 127, 0, 0, 1, 0x1F, 0x90]),
    (answers connectLoopback, .tlsConnectionEstablished),
    ({ answers connectLoopback with decrypt := ⟨true, [1, 2, 3], none⟩ }, .tlsDataReceived [7, 7])]

/-- The tunnel at the end of `tlsRun`. -/
def tlsTunnel : TunnelCtx := (run tlsEnv initDoneCb tlsRun).getD initDoneCb

/-- The upstream's second frame arrives while the success reply is being written: it trips
the assertion and its bytes never reach the client. -/
theorem tlsTunnel_second_frame_dropped :
    Reachable tlsEnv tlsTunnel ∧ tlsTunnel.stage = .authComplitionDone ∧
      Enabled tlsTunnel (.tlsDataReceived [8, 8]) ∧
      step tlsEnv (answers connectLoopback) tlsTunnel (.tlsDataReceived [8, 8]) =
        { tlsTunnel with
          awaitingReply := false
          trace := tlsTunnel.trace ++
            [.event (.tlsDataReceived [8, 8]), .fault (.assertion .tlsStage)] } :=
  ⟨reachable_of_run .init (by decide : run tlsEnv initDoneCb tlsRun = some tlsTunnel), by decide,
    by decide, later_frame_trips_assert (by decide)⟩

/-- `tlsTunnel` once the success reply is written: it streams over TLS. -/
def tlsStreamingTunnel : TunnelCtx :=
  (run tlsEnv initDoneCb (tlsRun ++ [(answers connectLoopback, .writeDone .incoming 12)])).getD
    initDoneCb

theorem tlsStreamingTunnel_reachable : Reachable tlsEnv tlsStreamingTunnel :=
  reachable_of_run .init (by decide :
    run tlsEnv initDoneCb (tlsRun ++ [(answers connectLoopback, .writeDone .incoming 12)]) =
      some tlsStreamingTunnel)

/-- Over TLS no byte from the upstream ever reaches the client: whatever the run, it is
sent the method reply and at most one request reply, and nothing else. -/
theorem overTls_replies_handshake_only (reachable : Reachable env t)
    (overTls : env.config.overTlsEnable = true) :
    HandshakeReplies env t.parser (replies t.trace) := by
  have progress := (Inv.of_reachable reachable).progress
  by_cases streaming : t.stage = .streaming
  · simp [Progress, streaming, overTls] at progress
  · exact progress.handshakeReplies streaming

theorem tlsStreamingTunnel_replies :
    Reachable tlsEnv tlsStreamingTunnel ∧ tlsEnv.config.overTlsEnable = true ∧
      HandshakeReplies tlsEnv tlsStreamingTunnel.parser (replies tlsStreamingTunnel.trace) :=
  ⟨tlsStreamingTunnel_reachable, rfl,
    overTls_replies_handshake_only tlsStreamingTunnel_reachable rfl⟩

end Frames

section ShortRead

/-- A call of `socks5_address_parse`: its window and its length. -/
@[simp] def Obs.addressParse : Obs → Option (List UInt8 × UInt64)
  | .call (.socks5AddressParse window len) => some (window, len)
  | _ => none

/-- The calls of `socks5_address_parse`, in order. -/
def addressParses (trace : List Obs) : List (List UInt8 × UInt64) :=
  trace.filterMap Obs.addressParse

@[simp] theorem addressParses_append (l₁ l₂ : List Obs) :
    addressParses (l₁ ++ l₂) = addressParses l₁ ++ addressParses l₂ := List.filterMap_append ..
@[simp] theorem addressParses_cons (o : Obs) (l : List Obs) :
    addressParses (o :: l) =
      (o.addressParse.map ([·] ++ addressParses l)).getD (addressParses l) := by
  rw [addressParses, List.filterMap_cons]
  cases o.addressParse <;> rfl
@[simp] theorem addressParses_nil : addressParses [] = [] := rfl
@[simp] theorem addressParses_ite (c : Prop) [Decidable c] (l₁ l₂ : List Obs) :
    addressParses (if c then l₁ else l₂) = if c then addressParses l₁ else addressParses l₂ :=
  apply_ite ..

variable {env : ServerEnv} {a : Answers} {u : TunnelCtx}

theorem doConnectSsrServer_addressParses :
    addressParses (doConnectSsrServer env a u).trace = addressParses u.trace := by
  unfold doConnectSsrServer
  dsimp only
  split_ifs <;> simp

/-- `do_parse_s5_request` calls `socks5_address_parse` once, on `data + 3` and `size - 3`
computed in `size_t`, before it looks at what `s5_parse` says. -/
theorem doParseS5Request_addressParses (nonneg : 0 ≤ u.incoming.result) :
    addressParses (doParseS5Request env a u).trace = addressParses u.trace ++
      [(u.incoming.buf.drop 3, UInt64.ofNat u.incoming.result.toNat - 3)] := by
  have incoming : u.assertIdle.incoming = u.incoming := rfl
  have parses : addressParses u.assertIdle.trace = addressParses u.trace := by simp
  unfold doParseS5Request
  generalize u.assertIdle = v at incoming parses
  rw [← incoming] at nonneg
  rw [← incoming, ← parses]
  dsimp only
  simp only [show ¬v.incoming.result < 0 by omega, if_false]
  repeat' split
  all_goals simp [doConnectSsrServer_addressParses]

/-- A read of fewer than three bytes in `s5_request` makes `do_parse_s5_request` pass
`socks5_address_parse` a length that wrapped around in `size_t`, and a window past the
bytes read. -/
theorem short_request_read_wraps {t : TunnelCtx} {n : Nat} {data : List UInt8}
    (stage : t.stage = .s5Request) (short : n < 3) :
    addressParses (step env a t (.readDone .incoming n data)).trace =
        addressParses t.trace ++ [(data.drop 3, UInt64.ofNat n - 3)] ∧
      (UInt64.ofNat n - 3).toNat = 2 ^ 64 - 3 + n := by
  constructor
  · simp only [step, dispatch, doNext, deliver_stage, record_stage, stage]
    rw [doParseS5Request_addressParses (by simp [deliver, Int.ofNat_nonneg])]
    simp [deliver]
  · match n, short with
    | 0, _ | 1, _ | 2, _ => rfl

/-- `s5_parse` asks for more after the request's first byte. -/
def requestStart : Parsed := ⟨greeting.parser, .ok, 0⟩

/-- The client's request arrives one byte at a time, `05` first. -/
theorem requestTunnel_first_byte_wraps :
    Reachable rawEnv requestTunnel ∧ Enabled requestTunnel (.readDone .incoming (1 : Nat) [5]) ∧
      addressParses (step rawEnv (answers requestStart) requestTunnel
          (.readDone .incoming (1 : Nat) [5])).trace =
        addressParses requestTunnel.trace ++ [(([5] : List UInt8).drop 3, UInt64.ofNat 1 - 3)] ∧
      (UInt64.ofNat 1 - 3).toNat = 2 ^ 64 - 3 + 1 :=
  ⟨requestTunnel_reachable, by decide, short_request_read_wraps (by decide) (by decide)⟩

end ShortRead

section Access

variable {env : ServerEnv} {a : Answers} {t : TunnelCtx} {r : Int} {data : List UInt8}

/-- The destination a CONNECT request names is never checked: `do_parse_s5_request` starts
the upstream connection for whatever request `s5_parse` accepts, launching the TLS
transport on the TLS path, and on the raw path with a literal upstream address connecting
to that address once `can_access` accepts it; the client is sent nothing either way. -/
theorem connect_ignores_destination (stage : t.stage = .s5Request) (nonneg : 0 ≤ r)
    (request : a.parse.err = .execCmd) (whole : a.parse.size = 0)
    (connect : a.parse.parser.cmd = .tcpConnect) :
    (env.config.overTlsEnable = true →
      .call .tlsClientLaunch ∈ (step env a t (.readDone .incoming r data)).trace ∧
        replies (step env a t (.readDone .incoming r data)).trace = replies t.trace) ∧
    ∀ addr, env.config.overTlsEnable = false →
      env.convertUniversalAddress env.config.remoteHost env.config.remotePort = some addr →
      canAccess env.ndebug addr = true →
      .call (.socketConnect addr) ∈ (step env a t (.readDone .incoming r data)).trace ∧
        replies (step env a t (.readDone .incoming r data)).trace = replies t.trace := by
  have ready : ¬r < 0 := Int.not_lt.mpr nonneg
  simp only [step, dispatch, doNext, deliver_stage, record_stage, stage]
  refine ⟨fun overTls => ?_, fun addr raw literal accepted => ?_⟩
  · simp [doParseS5Request, deliver, ready, request, whole, connect, overTls]
  · by_cases started : a.connect = 0 <;>
      simp [doParseS5Request, doConnectSsrServer, deliver, ready, request, whole, connect, raw,
        literal, accepted, started]

/-- `requestTunnel` over TLS: the greeting answered, the request awaited. -/
def tlsRequestTunnel : TunnelCtx := (run tlsEnv initDoneCb (tlsRun.take 2)).getD initDoneCb

/-- The spec's first scenario, in a build with `NDEBUG` and an upstream at `8.8.8.8`: the
CONNECT to `127.0.0.1:8080`, which `can_access` would refuse, is not answered with `05 02`;
on the raw path the tunnel connects to the upstream, and over TLS it launches the
transport. -/
theorem requestTunnel_loopback_connects :
    Reachable rawEnv requestTunnel ∧ Reachable tlsEnv tlsRequestTunnel ∧ rawEnv.ndebug = true ∧
      connectLoopback.parser.daddr = [127, 0, 0, 1] ∧
      canAccess rawEnv.ndebug (.inet 0x7F000001 connectLoopback.parser.dport) = false ∧
      (.call (.socketConnect (.inet 0x08080808 443)) ∈ (step rawEnv (answers connectLoopback)
          requestTunnel (.readDone .incoming 10 [5, 1, 0, 1, 127, 0, 0, 1, 0x1F, 0x90])).trace ∧
        replies (step rawEnv (answers connectLoopback) requestTunnel
          (.readDone .incoming 10 [5, 1, 0, 1, 127, 0, 0, 1, 0x1F, 0x90])).trace =
          replies requestTunnel.trace) ∧
      (.call .tlsClientLaunch ∈ (step tlsEnv (answers connectLoopback) tlsRequestTunnel
          (.readDone .incoming 10 [5, 1, 0, 1, 127, 0, 0, 1, 0x1F, 0x90])).trace ∧
        replies (step tlsEnv (answers connectLoopback) tlsRequestTunnel
          (.readDone .incoming 10 [5, 1, 0, 1, 127, 0, 0, 1, 0x1F, 0x90])).trace =
          replies tlsRequestTunnel.trace) :=
  ⟨requestTunnel_reachable,
    reachable_of_run .init
      (by decide : run tlsEnv initDoneCb (tlsRun.take 2) = some tlsRequestTunnel),
    rfl, rfl, by decide,
    (connect_ignores_destination (by decide) (by decide) rfl rfl rfl).2 _ rfl rfl (by decide),
    (connect_ignores_destination (by decide) (by decide) rfl rfl rfl).1 rfl⟩

/-- Every `socket_connect` of a run is on the raw path, to an address of the configured
upstream server (`remote_host` as a literal address, or an address a lookup of it
delivered, with `remote_port`), and that address passed `can_access`. -/
theorem connect_only_accepted (reachable : Reachable env t) {addr : SockAddr}
    (connected : .call (.socketConnect addr) ∈ t.trace) :
    env.config.overTlsEnable = false ∧ canAccess env.ndebug addr = true ∧
      UpstreamAddress env t.trace addr :=
  (Inv.of_reachable reachable).common.upstream addr (List.mem_filterMap.mpr ⟨_, connected, rfl⟩)

theorem streamingTunnel_connect_accepted :
    rawEnv.config.overTlsEnable = false ∧ canAccess rawEnv.ndebug (.inet 0x08080808 443) = true ∧
      UpstreamAddress rawEnv streamingTunnel.trace (.inet 0x08080808 443) :=
  connect_only_accepted streamingTunnel_reachable (by decide)

end Access

end SsrClient
