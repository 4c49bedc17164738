import SsrClient.Machine

/-!
# What a tunnel has in flight at each stage

Between two events every stage of a live tunnel owns a fixed set of outstanding
operations: the greeting stage one read on `incoming`, the lookup stage one DNS lookup,
and so on; in `streaming` each direction owns either the read of its source or the write
to its sink.  `Shape` states this table; its consequences here are that a completion only
ever reaches the handler that expects it, and that a live tunnel always has something in
flight.
-/

namespace SsrClient

open TunnelCtx

/-- Everything in flight for a tunnel: the four socket states, an outstanding connect or
lookup, and the TLS transport's phase. -/
structure Flight where
  inRd : SocketState
  inWr : SocketState
  outRd : SocketState
  outWr : SocketState
  connecting : Bool
  resolving : Bool
  tls : TlsPhase
  deriving DecidableEq, Repr

/-- All sockets idle, nothing outstanding, the TLS transport in `tls`. -/
def Flight.quiet (tls : TlsPhase) : Flight := ⟨.stop, .stop, .stop, .stop, false, false, tls⟩

/-- The tunnel's flight. -/
def TunnelCtx.flight (t : TunnelCtx) : Flight :=
  ⟨t.incoming.rdstate, t.incoming.wrstate, t.outgoing.rdstate, t.outgoing.wrstate,
    t.connecting, t.resolving, t.tls⟩

/-- Raw streaming: each direction has either its read or its write outstanding. -/
def Flight.Streaming (f : Flight) : Prop :=
  f.connecting = false ∧ f.resolving = false ∧ f.tls = .idle ∧
    (f.inRd = .busy ∧ f.outWr = .stop ∨ f.inRd = .stop ∧ f.outWr = .busy) ∧
    (f.outRd = .busy ∧ f.inWr = .stop ∨ f.outRd = .stop ∧ f.inWr = .busy)

/-- The flight each stage of a live tunnel leaves behind; `overTls` is the configured path.
`handshake_auth` is never entered. -/
def Shape (overTls : Bool) (t : TunnelCtx) : Prop :=
  match t.stage with
  | .handshake | .s5Request => t.flight = { Flight.quiet .idle with inRd := .busy }
  | .handshakeReplied | .s5UdpAccoc | .kill => t.flight = { Flight.quiet .idle with inWr := .busy }
  | .resolveSsrServerHostDone =>
      overTls = false ∧ t.flight = { Flight.quiet .idle with resolving := true }
  | .connectingSsrServer =>
      overTls = false ∧ t.flight = { Flight.quiet .idle with connecting := true }
  | .ssrAuthSent | .ssrReceiptOfFeedbackSent =>
      overTls = false ∧ t.flight = { Flight.quiet .idle with outWr := .busy }
  | .ssrWaitingFeedback => overTls = false ∧ t.flight = { Flight.quiet .idle with outRd := .busy }
  | .authComplitionDone =>
      overTls = false ∧ t.flight = { Flight.quiet .idle with inWr := .busy } ∨
        overTls = true ∧ (t.flight = { Flight.quiet .connected with inWr := .busy } ∨
          t.flight = Flight.quiet .closing)
  | .streaming => overTls = false ∧ t.flight.Streaming
  | .tlsConnecting =>
      overTls = true ∧ (t.flight = Flight.quiet .connecting ∨ t.flight = Flight.quiet .closing)
  | .tlsFirstPackage =>
      overTls = true ∧ (t.flight = Flight.quiet .connected ∧ t.awaitingReply = true ∨
        t.flight = Flight.quiet .closing)
  | .tlsStreaming =>
      overTls = true ∧ (t.flight = { Flight.quiet .connected with inRd := .busy } ∨
        t.flight = { Flight.quiet .closing with inRd := .busy })
  | .handshakeAuth => False

/-- A completion the tunnel still waits for: an armed read or write, an outstanding connect
or lookup, the TLS transport's connection, or the upstream's reply to bytes sent over a
connected TLS transport. -/
def Pending (t : TunnelCtx) : Prop :=
  t.incoming.rdstate = .busy ∨ t.incoming.wrstate = .busy ∨ t.outgoing.rdstate = .busy ∨
    t.outgoing.wrstate = .busy ∨ t.connecting = true ∨ t.resolving = true ∨
    t.tls = .connecting ∨ t.tls = .connected ∧ t.awaitingReply = true

/-- The flight with the read state of one socket replaced. -/
def Flight.setRd (f : Flight) : Side → SocketState → Flight
  | .incoming, state => { f with inRd := state }
  | .outgoing, state => { f with outRd := state }

/-- The flight with the write state of one socket replaced. -/
def Flight.setWr (f : Flight) : Side → SocketState → Flight
  | .incoming, state => { f with inWr := state }
  | .outgoing, state => { f with outWr := state }

@[simp] theorem flight_setRdstate (t : TunnelCtx) (side : Side) (state : SocketState) :
    (t.setRdstate side state).flight = t.flight.setRd side state := by
  cases side <;> rfl

@[simp] theorem flight_setWrstate (t : TunnelCtx) (side : Side) (state : SocketState) :
    (t.setWrstate side state).flight = t.flight.setWr side state := by
  cases side <;> rfl

theorem flight_eq_iff {t : TunnelCtx} {f : Flight} :
    t.flight = f ↔ t.incoming.rdstate = f.inRd ∧ t.incoming.wrstate = f.inWr ∧
      t.outgoing.rdstate = f.outRd ∧ t.outgoing.wrstate = f.outWr ∧
      t.connecting = f.connecting ∧ t.resolving = f.resolving ∧ t.tls = f.tls := by
  cases f
  simp [TunnelCtx.flight]

section Routing

variable {overTls : Bool} {t : TunnelCtx}

/-- An armed read belongs to a stage that waits for it. -/
theorem Shape.read_busy {side : Side} (shape : Shape overTls t)
    (busy : (t.socket side).rdstate = .busy) :
    side = .incoming ∧ (t.stage = .handshake ∨ t.stage = .s5Request ∨ t.stage = .tlsStreaming ∨
      t.stage = .streaming) ∨
    side = .outgoing ∧ (t.stage = .ssrWaitingFeedback ∨ t.stage = .streaming) := by
  unfold Shape at shape
  cases side <;> simp only [socket_incoming, socket_outgoing] at busy <;>
    split at shape <;> simp_all [flight_eq_iff, Flight.quiet, Flight.Streaming]

/-- An armed write belongs to a stage that waits for it. -/
theorem Shape.write_busy {side : Side} (shape : Shape overTls t)
    (busy : (t.socket side).wrstate = .busy) :
    side = .incoming ∧ (t.stage = .handshakeReplied ∨ t.stage = .s5UdpAccoc ∨ t.stage = .kill ∨
      t.stage = .authComplitionDone ∨ t.stage = .streaming) ∨
    side = .outgoing ∧ (t.stage = .ssrAuthSent ∨ t.stage = .ssrReceiptOfFeedbackSent ∨
      t.stage = .streaming) := by
  unfold Shape at shape
  cases side <;> simp only [socket_incoming, socket_outgoing] at busy <;>
    split at shape <;> simp_all [flight_eq_iff, Flight.quiet, Flight.Streaming]

/-- An outstanding connect belongs to `connecting_ssr_server`. -/
theorem Shape.connecting_stage (shape : Shape overTls t) (connecting : t.connecting = true) :
    t.stage = .connectingSsrServer := by
  unfold Shape at shape
  split at shape <;> simp_all [flight_eq_iff, Flight.quiet, Flight.Streaming, TunnelCtx.flight]

/-- An outstanding lookup belongs to `resolve_ssr_server_host_done`. -/
theorem Shape.resolving_stage (shape : Shape overTls t) (resolving : t.resolving = true) :
    t.stage = .resolveSsrServerHostDone := by
  unfold Shape at shape
  split at shape <;> simp_all [flight_eq_iff, Flight.quiet, Flight.Streaming, TunnelCtx.flight]

/-- A TLS transport still connecting belongs to `tls_connecting`. -/
theorem Shape.tls_connecting (shape : Shape overTls t) (connecting : t.tls = .connecting) :
    t.stage = .tlsConnecting := by
  unfold Shape at shape
  split at shape <;> simp_all [flight_eq_iff, Flight.quiet, Flight.Streaming, TunnelCtx.flight]

/-- Only `tls_first_package` reads whether the upstream owes a reply. -/
theorem Shape.clearReply (shape : Shape overTls t) (stage : t.stage ≠ .tlsFirstPackage) :
    Shape overTls { t with awaitingReply := false } := by
  unfold Shape at shape ⊢
  split at shape <;> simp_all [TunnelCtx.flight]

end Routing

/-- In raw streaming no socket has a completion waiting to be latched. -/
theorem Flight.Streaming.not_done {f : Flight} (streaming : f.Streaming) :
    f.inRd ≠ .done ∧ f.inWr ≠ .done ∧ f.outRd ≠ .done ∧ f.outWr ≠ .done := by
  obtain ⟨-, -, -, inbound, outbound⟩ := streaming
  rcases inbound with ⟨inRd, outWr⟩ | ⟨inRd, outWr⟩ <;>
    rcases outbound with ⟨outRd, inWr⟩ | ⟨outRd, inWr⟩ <;> simp [*]

/-- In raw streaming a direction whose source is being read has nothing to write to its
sink. -/
theorem Flight.Streaming.sink_stop_of_read {t : TunnelCtx} {side : Side}
    (streaming : t.flight.Streaming) (busy : (t.socket side).rdstate = .busy) :
    (t.socket side.other).wrstate = .stop := by
  obtain ⟨-, -, -, inbound, outbound⟩ := streaming
  cases side <;> simp_all [TunnelCtx.flight]

/-- In raw streaming a direction whose sink is being written does not read its source. -/
theorem Flight.Streaming.source_stop_of_write {t : TunnelCtx} {side : Side}
    (streaming : t.flight.Streaming) (busy : (t.socket side).wrstate = .busy) :
    (t.socket side.other).rdstate = .stop := by
  obtain ⟨-, -, -, inbound, outbound⟩ := streaming
  cases side <;> simp_all [TunnelCtx.flight]

/-- A live tunnel whose TLS transport is not closing always waits for a completion. -/
theorem Shape.pending {overTls : Bool} {t : TunnelCtx} (shape : Shape overTls t)
    (open_ : t.tls ≠ .closing) : Pending t := by
  unfold Shape at shape
  unfold Pending
  split at shape <;> simp_all [flight_eq_iff, Flight.quiet, Flight.Streaming, TunnelCtx.flight]
  case h_11 => rcases shape with ⟨-, -, busy, -⟩ | ⟨-, -, busy, -⟩ <;> simp [busy]
  case h_12 => obtain ⟨-, -, -, -, ⟨busy, -⟩ | ⟨-, busy⟩, -⟩ := shape <;> simp [busy]

end SsrClient
