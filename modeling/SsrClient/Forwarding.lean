import SsrClient.Session

/-!
# Raw streaming forwards every chunk once, in order

Once a tunnel streams on the raw path, each read completion on one socket hands its bytes
to the cipher, and what the cipher gives back is written to the other socket.  Over any
run from a streaming state, the chunks read from the client are exactly the inputs of the
encryptions, in order, and the payloads written upstream exactly their outputs; the same
holds from the upstream to the client through decryption.  No chunk is lost, duplicated
or reordered on the way, and a cipher failure stops the direction instead of skipping a
chunk.  Each direction alternates between reading its source and writing its sink, so the
buffer a read fills is not refilled before the write that carries it completes.  Put
together with the handshake, a whole session sends the client the method reply, the success
reply, and then the upstream's decrypted bytes and nothing else.
-/

namespace SsrClient

open TunnelCtx

/-- The bytes of a read completed on `side`, as the handlers take them from the buffer. -/
@[simp] def Obs.chunk (side : Side) : Obs → Option (List UInt8)
  | .event (.readDone s r data) => if s = side ∧ 0 ≤ r then some (data.take (sizeT r)) else none
  | _ => none

/-- An encryption of bytes read from the client, with what the cipher gave back. -/
@[simp] def Obs.encryption : Obs → Option (List UInt8 × Option (List UInt8))
  | .call (.tunnelCipherClientEncrypt .incoming buf result) => some (buf, result)
  | _ => none

/-- A decryption of bytes read from the upstream, with what the cipher gave back. -/
@[simp] def Obs.decryption : Obs → Option (List UInt8 × Decrypted)
  | .call (.tunnelCipherClientDecrypt .outgoing buf result) => some (buf, result)
  | _ => none

/-- The chunks read on `side`, in order. -/
def chunks (side : Side) (trace : List Obs) : List (List UInt8) := trace.filterMap (Obs.chunk side)

/-- The encryptions of the client's bytes, in order. -/
def encryptions (trace : List Obs) : List (List UInt8 × Option (List UInt8)) :=
  trace.filterMap Obs.encryption

/-- The decryptions of the upstream's bytes, in order. -/
def decryptions (trace : List Obs) : List (List UInt8 × Decrypted) :=
  trace.filterMap Obs.decryption

/-- The output of a decryption that succeeded. -/
def Decrypted.output (d : Decrypted) : Option (List UInt8) := if d.ok then some d.buf else none

/-- A stretch of history that forwards exactly: the client's chunks are the encryptions'
inputs and the payloads their outputs, the upstream's chunks are the decryptions' inputs and
the writes to the client their outputs. -/
structure Forwarded (more : List Obs) : Prop where
  clientChunks : (encryptions more).map Prod.fst = chunks .incoming more
  upstreamPayloads : (encryptions more).filterMap Prod.snd = payloads more
  upstreamChunks : (decryptions more).map Prod.fst = chunks .outgoing more
  clientWrites : (decryptions more).filterMap (·.2.output) = replies more

theorem Forwarded.append {l₁ l₂ : List Obs} (first : Forwarded l₁) (second : Forwarded l₂) :
    Forwarded (l₁ ++ l₂) := by
  obtain ⟨c₁, p₁, u₁, w₁⟩ := first
  obtain ⟨c₂, p₂, u₂, w₂⟩ := second
  constructor <;>
    simp_all [chunks, encryptions, decryptions, List.filterMap_append]

/-- The completions of the direction that reads `side` and writes to the other socket, in
order: a read of its source (`true`) or a write to its sink (`false`). -/
@[simp] def Obs.completion (side : Side) : Obs → Option Bool
  | .event (.readDone s _ _) => if s = side then some true else none
  | .event (.writeDone s _) => if s = side.other then some false else none
  | _ => none

/-- The completions of one direction, in order. -/
def completions (side : Side) (trace : List Obs) : List Bool :=
  trace.filterMap (Obs.completion side)

@[simp] theorem completions_append (side : Side) (l₁ l₂ : List Obs) :
    completions side (l₁ ++ l₂) = completions side l₁ ++ completions side l₂ :=
  List.filterMap_append ..

@[simp] theorem completions_nil (side : Side) : completions side [] = [] := rfl

@[simp] theorem completions_cons (side : Side) (o : Obs) (l : List Obs) :
    completions side (o :: l) = (o.completion side).toList ++ completions side l := by
  rw [completions, List.filterMap_cons]
  cases o.completion side <;> rfl

section Streaming

variable {a : Answers} {u : TunnelCtx} {side : Side}

/-- A read completion in raw streaming hands the bytes read to the cipher and writes its
output to the other socket; a failed read or a failed cipher shuts the tunnel down instead. -/
theorem tunnelTraditionalStreaming_read_forwards {r : Int} {data : List UInt8}
    (wr : (u.socket side).wrstate ≠ .done) :
    let v := tunnelTraditionalStreaming a side
      (u.setSocket side { u.socket side with rdstate := .done, result := r, buf := data })
    u.trace <+: v.trace ∧
      Forwarded (.event (.readDone side r data) :: v.trace.drop u.trace.length) := by
  rw [tunnelTraditionalStreaming_readDone wr]
  cases side <;> dsimp only [tunnelExtractData] <;> split_ifs <;> (try split) <;>
    simp only [faultIf, tunnelShutdown, call, record, socketWrite, setWrstate, socket_incoming,
      socket_outgoing, setSocket_incoming, setSocket_outgoing, Side.other_incoming,
      Side.other_outgoing, List.append_assoc, List.prefix_append, List.drop_left, true_and] <;>
    (try split_ifs) <;> constructor <;>
    simp_all [chunks, encryptions, decryptions, Decrypted.output, Int.not_lt, Int.not_le]

/-- A write completion in raw streaming arms the next read or shuts the tunnel down; it
moves no bytes. -/
theorem tunnelTraditionalStreaming_write_forwards {r : Int}
    (rd : (u.socket side).rdstate ≠ .done) :
    let v := tunnelTraditionalStreaming a side
      (u.setSocket side { u.socket side with wrstate := .done, result := r })
    u.trace <+: v.trace ∧
      Forwarded (.event (.writeDone side r) :: v.trace.drop u.trace.length) := by
  rw [tunnelTraditionalStreaming_writeDone rd]
  cases side <;> dsimp only <;> split_ifs <;>
    simp only [faultIf, tunnelShutdown, call, record, socketRead, setRdstate, socket_incoming,
      socket_outgoing, setSocket_incoming, setSocket_outgoing, Side.other_incoming,
      Side.other_outgoing, List.append_assoc, List.prefix_append, List.drop_left, true_and] <;>
    (try split_ifs) <;> constructor <;> simp [chunks, encryptions, decryptions]

end Streaming

section Runs

variable {env : ServerEnv} {a : Answers} {t t' : TunnelCtx}

/-- A live reachable tunnel in raw streaming has its sockets as `Flight.Streaming` says. -/
theorem Reachable.streaming_flight (reachable : Reachable env t) (stage : t.stage = .streaming)
    (live : t.terminated = false) : t.flight.Streaming := by
  have shape := (Inv.of_reachable reachable).shape live
  simp only [Shape, stage] at shape
  exact shape.2

/-- A history that grows from `t`'s by a stretch that forwards exactly. -/
theorem forwards_of_grows {trace : List Obs} (grows : t.trace <+: trace)
    (forwarded : Forwarded (trace.drop t.trace.length)) :
    ∃ more, trace = t.trace ++ more ∧ Forwarded more := by
  obtain ⟨more, rfl⟩ := grows
  exact ⟨more, rfl, by simpa using forwarded⟩

/-- The same, when a handler extends the history of `t.record (.event e)` and the
stretch it adds forwards exactly together with the event. -/
theorem forwards_after_record {e : Event} {trace : List Obs}
    (grows : (t.record (.event e)).trace <+: trace)
    (forwarded : Forwarded (.event e :: trace.drop (t.record (.event e)).trace.length)) :
    ∃ more, trace = t.trace ++ more ∧ Forwarded more := by
  obtain ⟨rest, rfl⟩ := grows
  exact ⟨.event e :: rest, by simp [record], by simpa [record] using forwarded⟩

/-- An event that completes no read or write moves no bytes, as long as no connect, lookup
or TLS transport is outstanding: it only records itself, a teardown or the releases. -/
theorem step_forwards_control {e : Event} (enabled : Enabled t e)
    (idle : t.terminated = false → t.connecting = false ∧ t.resolving = false ∧ t.tls = .idle)
    (noRead : ∀ side r data, e ≠ .readDone side r data)
    (noWrite : ∀ side r, e ≠ .writeDone side r) :
    ∃ more, (step env a t e).trace = t.trace ++ more ∧ Forwarded more := by
  cases e with
  | readDone side r data => exact absurd rfl (noRead side r data)
  | writeDone side r => exact absurd rfl (noWrite side r)
  | outgoingConnected _ | getaddrinfoDone _ _ | tlsConnectionEstablished | tlsDataReceived _
  | tlsShuttingDown =>
      obtain ⟨connecting, resolving, tls⟩ := idle enabled.1
      simp [Enabled, connecting, resolving, tls] at enabled
  | timeoutExpire _ | clientShutdown =>
      exact forwards_of_grows (by simp [step, dispatch, deliver])
        (by constructor <;> simp [step, dispatch, deliver, chunks, encryptions, decryptions])
  | dying =>
      exact forwards_of_grows (by simp [step, dispatch, deliver, tunnelDying])
        (by by_cases held : t.cipher.isSome <;> constructor <;>
              simp [step, dispatch, deliver, tunnelDying, held, chunks, encryptions, decryptions])

/-- Every enabled event of a reachable tunnel in raw streaming extends its history by a
stretch that forwards exactly. -/
theorem step_forwards {e : Event} (reachable : Reachable env t) (stage : t.stage = .streaming)
    (enabled : Enabled t e) :
    ∃ more, (step env a t e).trace = t.trace ++ more ∧ Forwarded more := by
  have streaming := reachable.streaming_flight stage
  cases e
  case readDone side r data =>
    obtain ⟨-, inWr, -, outWr⟩ := (streaming enabled.1).not_done
    have ⟨grows, forwarded⟩ := @tunnelTraditionalStreaming_read_forwards a
      (t.record (.event (.readDone side r data))) side r data (by cases side <;> assumption)
    simp only [step, dispatch, deliver, doNext, setSocket_stage, record_stage, stage]
    exact forwards_after_record grows forwarded
  case writeDone side r =>
    obtain ⟨inRd, -, outRd, -⟩ := (streaming enabled.1).not_done
    have ⟨grows, forwarded⟩ := @tunnelTraditionalStreaming_write_forwards a
      (t.record (.event (.writeDone side r))) side r (by cases side <;> assumption)
    simp only [step, dispatch, deliver, doNext, setSocket_stage, record_stage, stage]
    exact forwards_after_record grows forwarded
  all_goals
    refine step_forwards_control enabled (fun live => ?_) (by simp) (by simp)
    obtain ⟨connecting, resolving, idle, -⟩ := streaming live
    exact ⟨connecting, resolving, idle⟩

/-- The step that can start raw streaming: in `auth_complition_done` on the raw path the
write of the success reply completes and `do_launch_streaming` arms both reads; every
other enabled event moves no bytes either. -/
theorem step_forwards_launch {e : Event} (reachable : Reachable env t)
    (stage : t.stage = .authComplitionDone) (raw : env.config.overTlsEnable = false)
    (enabled : Enabled t e) :
    ∃ more, (step env a t e).trace = t.trace ++ more ∧ Forwarded more := by
  have flight (live : t.terminated = false) :
      t.flight = { Flight.quiet .idle with inWr := .busy } := by
    have shape := (Inv.of_reachable reachable).shape live
    simp only [Shape, stage, raw] at shape
    simpa using shape
  cases e
  case readDone side r data =>
    have flight := flight enabled.1
    simp only [flight_eq_iff, Flight.quiet] at flight
    cases side <;> simp [Enabled, flight] at enabled
  case writeDone side r =>
    have flight := flight enabled.1
    simp only [flight_eq_iff, Flight.quiet] at flight
    obtain ⟨inRd, -, outRd, outWr, -⟩ := flight
    simp only [step, dispatch, doNext, deliver_stage, record_stage, stage, raw,
      Bool.false_eq_true, ↓reduceIte]
    cases side
    · -- `do_launch_streaming` arms both reads, or shuts the tunnel down
      by_cases failed : r < 0 <;>
        exact forwards_of_grows (by simp [doLaunchStreaming, deliver, failed])
          (by constructor <;> simp [doLaunchStreaming, deliver, failed, inRd, outRd, outWr, chunks,
                encryptions, decryptions])
    · simp [Enabled, outWr] at enabled
  all_goals
    refine step_forwards_control enabled (fun live => ?_) (by simp) (by simp)
    have flight := flight live
    simp only [flight_eq_iff, Flight.quiet] at flight
    exact ⟨flight.2.2.2.2.1, flight.2.2.2.2.2.1, flight.2.2.2.2.2.2⟩

/-- Once a raw-path tunnel streams, its history splits where streaming began: the client
was sent two replies before, and everything after forwards exactly. -/
theorem streaming_split (reachable : Reachable env t) (stage : t.stage = .streaming) :
    ∃ handshake more, t.trace = handshake ++ more ∧ (replies handshake).length = 2 ∧
      Forwarded more := by
  induction reachable with
  | init => simp [initDoneCb] at stage
  | @step u a e before enabled ih =>
      by_cases streamed : u.stage = .streaming
      · obtain ⟨handshake, more, trace, two, forwarded⟩ := ih streamed
        obtain ⟨first, stepped, forwarded'⟩ := @step_forwards env a u e before streamed enabled
        exact ⟨handshake, more ++ first, by simp [stepped, trace], two, forwarded.append forwarded'⟩
      · -- only `auth_complition_done` moves to `streaming`
        have launch : u.stage = .authComplitionDone := by
          have edge := @step_stage env a u e before enabled
          rw [stage] at edge
          cases entered : u.stage <;> simp_all [TunnelStage.successors]
        have raw := (Inv.of_reachable (before.step a e enabled)).progress
        simp only [Progress, stage] at raw
        have rs := (Inv.of_reachable before).progress
        simp only [Progress, launch] at rs
        obtain ⟨more, stepped, forwarded⟩ :=
          @step_forwards_launch env a u e before launch raw.1 enabled
        exact ⟨u.trace, more, stepped, by rw [rs.1]; rfl, forwarded⟩

/-- What the client of a raw-path session is sent: once the tunnel streams, its history
is a handshake in which the client was sent the method reply `05 00` and the success reply,
followed by a stretch that forwards exactly, so that everything written to the client
since is the cipher's decryption of the upstream's chunks, chunk by chunk and in order, and
everything written upstream the encryption of the client's chunks. -/
theorem streaming_replies_forwarded (reachable : Reachable env t)
    (stage : t.stage = .streaming) :
    ∃ handshake more, t.trace = handshake ++ more ∧
      replies handshake = [[5, 0], successReply t.parser] ∧ Forwarded more := by
  obtain ⟨handshake, more, trace, two, forwarded⟩ := streaming_split reachable stage
  have progress := (Inv.of_reachable reachable).progress
  simp only [Progress, stage] at progress
  obtain ⟨-, ⟨rest, rs⟩, -⟩ := progress
  have split : replies handshake ++ replies more = [[5, 0], successReply t.parser] ++ rest := by
    rw [← replies_append, ← trace, rs]
    rfl
  exact ⟨handshake, more, trace, (List.append_inj split two).1, forwarded⟩

theorem streamingTunnel_replies_forwarded :
    Reachable rawEnv streamingTunnel ∧ streamingTunnel.stage = .streaming ∧
      ∃ handshake more, streamingTunnel.trace = handshake ++ more ∧
        replies handshake = [[5, 0], successReply streamingTunnel.parser] ∧ Forwarded more :=
  ⟨streamingTunnel_reachable, by decide,
    streaming_replies_forwarded streamingTunnel_reachable (by decide)⟩

/-- In raw streaming each direction either reads its source or writes to its sink, never
both and never neither: the next read of a socket is armed only once the write carrying its
last bytes has completed. -/
theorem streaming_direction_exclusive (reachable : Reachable env t)
    (live : t.terminated = false) (stage : t.stage = .streaming) (side : Side) :
    (t.socket side).rdstate = .busy ∧ (t.socket side.other).wrstate = .stop ∨
      (t.socket side).rdstate = .stop ∧ (t.socket side.other).wrstate = .busy := by
  have shape := (Inv.of_reachable reachable).shape live
  simp only [Shape, stage] at shape
  obtain ⟨-, -, -, -, inbound, outbound⟩ := shape
  cases side
  · exact inbound
  · exact outbound

theorem streamingTunnel_direction_exclusive :
    Reachable rawEnv streamingTunnel ∧ streamingTunnel.terminated = false ∧
      streamingTunnel.stage = .streaming ∧
      (streamingTunnel.incoming.rdstate = .busy ∧ streamingTunnel.outgoing.wrstate = .stop ∨
        streamingTunnel.incoming.rdstate = .stop ∧ streamingTunnel.outgoing.wrstate = .busy) :=
  ⟨streamingTunnel_reachable, by decide, by decide,
    streaming_direction_exclusive streamingTunnel_reachable (by decide) (by decide) .incoming⟩

end Runs

end SsrClient
