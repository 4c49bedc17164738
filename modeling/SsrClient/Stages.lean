import SsrClient.Invariant

/-!
# Each stage handler keeps the invariant

A handler of `do_next` runs once the completion it waits for has been latched: the tunnel
is live, nothing else is in flight, and its history is the one the invariant describes for
its stage (`Entry`).  From there each branch of the handler leaves a state that satisfies
the invariant again: it is enough that the branch leaves the flight and the history its new
stage expects, since the frame lemmas of the previous file give `Common` back
(`Common.branch`).  `do_socks5_reply_success`, reached from three stages and from the TLS
transport, has its own precondition (`ReplyReady`).
-/

namespace SsrClient

open TunnelCtx

/-- A live tunnel as a stage handler finds it: the completion latched, nothing in flight,
the TLS transport in phase `tls`, and the history the invariant describes. -/
structure Entry (env : ServerEnv) (tls : TlsPhase) (u : TunnelCtx) : Prop where
  live : u.terminated = false
  alive : u.dead = false
  quiet : u.flight = Flight.quiet tls
  progress : Progress env u
  common : Common env u

/-- What `do_socks5_reply_success` needs: nothing in flight, only the method reply written,
the cipher created and used, and the encrypted `init_pkg` at the upstream. -/
structure ReplyReady (env : ServerEnv) (v : TunnelCtx) : Prop where
  alive : v.dead = false
  quiet : v.flight = Flight.quiet (if env.config.overTlsEnable then .connected else .idle)
  replied : replies v.trace = [[5, 0]]
  created : creations v.trace = 1
  used : cipherOps v.trace ≠ []
  sent : payloads v.trace ≠ []
  delivered : Delivered env.config.overTlsEnable v.trace
  common : Common env v

section Quiet

variable {u : TunnelCtx} {tls : TlsPhase}

theorem assertStopped_of_quiet (quiet : u.flight = Flight.quiet tls) (side : Side) :
    u.assertStopped side = u := by
  simp only [flight_eq_iff, Flight.quiet] at quiet
  obtain ⟨inRd, inWr, outRd, outWr, -⟩ := quiet
  cases side <;> simp only [assertStopped, check, faultIf, socket_incoming, socket_outgoing, inRd,
    inWr, outRd, outWr, decide_True, Bool.not_true, Bool.false_eq_true, ite_false, List.append_nil]

theorem assertIdle_of_quiet (quiet : u.flight = Flight.quiet tls) : u.assertIdle = u := by
  simp only [assertIdle, assertStopped_of_quiet quiet]

end Quiet

section Branch

variable {env : ServerEnv} {u v : TunnelCtx}

/-- A branch that adds only inert entries to the history, and changes the parser only while
there is no cipher, keeps the invariant once it leaves the flight and the history its stage
expects. -/
theorem Common.branch (common : Common env u) (alive : u.dead = false)
    (frame : u.trace <+: v.trace ∧ Adds (v.trace.drop u.trace.length) 0 [] [] ∧
      (v.parser = u.parser ∨ creations u.trace = 0 ∧ cipherOps u.trace = []) ∧
      v.cipher = u.cipher ∧ v.initPkg = u.initPkg ∧ v.dead = u.dead)
    (shape : v.terminated = false → Shape env.config.overTlsEnable v) (progress : Progress env v) :
    Inv env v :=
  ⟨shape, fun _ => frame.2.2.2.2.2.trans alive, progress, common.extend frame⟩

/-- The same for a branch that runs the cipher or hands the upstream bytes once the first
payload has gone out. -/
theorem Common.branchOps (common : Common env u) (alive : u.dead = false)
    (used : cipherOps u.trace ≠ []) (sent : payloads u.trace ≠ [])
    (frame : u.trace <+: v.trace ∧ AddsLater (v.trace.drop u.trace.length) ∧
      v.parser = u.parser ∧ v.cipher = u.cipher ∧ v.initPkg = u.initPkg ∧ v.dead = u.dead)
    (shape : v.terminated = false → Shape env.config.overTlsEnable v) (progress : Progress env v) :
    Inv env v :=
  ⟨shape, fun _ => frame.2.2.2.2.2.trans alive, progress, common.extendOps used sent frame⟩

end Branch

section Handlers

variable {env : ServerEnv} {a : Answers} {u : TunnelCtx}

theorem inv_doHandshake (entry : Entry env .idle u) (stage : u.stage = .handshake) :
    Inv env (doHandshake a u) := by
  obtain ⟨-, alive, quiet, progress, common⟩ := entry
  simp only [Progress, stage] at progress
  obtain ⟨rs, k, ops, up⟩ := progress
  unfold doHandshake
  rw [assertStopped_of_quiet quiet]
  simp only [flight_eq_iff, Flight.quiet] at quiet
  dsimp only
  split_ifs <;>
    exact common.branch alive (by simp [Adds, k, ops, quiet])
      (by simp [Shape, flight_eq_iff, Flight.quiet, quiet, stage])
      (by simp [Progress, rs, k, ops, up, stage])

theorem inv_doWaitS5Request (entry : Entry env .idle u) (stage : u.stage = .handshakeReplied) :
    Inv env (doWaitS5Request u) := by
  obtain ⟨-, alive, quiet, progress, common⟩ := entry
  simp only [Progress, stage] at progress
  obtain ⟨rs, k, ops, up⟩ := progress
  unfold doWaitS5Request
  rw [assertStopped_of_quiet quiet]
  simp only [flight_eq_iff, Flight.quiet] at quiet
  dsimp only
  split_ifs <;>
    exact common.branch alive (by simp [Adds, quiet])
      (by simp [Shape, flight_eq_iff, Flight.quiet, quiet, stage])
      (by simp [Progress, rs, k, ops, up, stage])

/-- `do_connect_ssr_server` runs with the cipher just created, from the request stage (a
literal upstream address) or from the lookup stage, and connects only to an upstream
address `can_access` accepts. -/
theorem inv_doConnectSsrServer {v : TunnelCtx} (raw : env.config.overTlsEnable = false)
    (alive : v.dead = false) (quiet : v.flight = Flight.quiet .idle)
    (stage : v.stage = .s5Request ∨ v.stage = .resolveSsrServerHostDone)
    (rs : replies v.trace = [[5, 0]]) (k : creations v.trace = 1) (ops : cipherOps v.trace = [])
    (up : payloads v.trace = []) (upstream : UpstreamAddress env v.trace v.outgoing.addr)
    (common : Common env v) : Inv env (doConnectSsrServer env a v) := by
  unfold doConnectSsrServer
  rw [assertIdle_of_quiet quiet]
  simp only [flight_eq_iff, Flight.quiet] at quiet
  dsimp only
  split_ifs with denied failed
  · exact common.branch alive (by simp [Adds, quiet])
      (by simp [Shape, flight_eq_iff, Flight.quiet, quiet])
      (by simp [Progress, rs, k, ops, up])
  · have connected := common.socketConnect raw (by simpa using denied) upstream a.connect
    exact connected.branch alive (by simp [Adds, quiet]) (by simp)
      (by rcases stage with stage | stage <;> simp [Progress, stage, rs, k, ops, up])
  · have connected := common.socketConnect raw (by simpa using denied) upstream a.connect
    simp only [ne_eq, not_not] at failed
    exact connected.branch alive (by simp [Adds])
      (by simp [Shape, flight_eq_iff, Flight.quiet, quiet, raw, failed])
      (by simp [Progress, rs, k, ops, up])

theorem inv_doParseS5Request (entry : Entry env .idle u) (stage : u.stage = .s5Request) :
    Inv env (doParseS5Request env a u) := by
  obtain ⟨live, alive, quiet, progress, common⟩ := entry
  simp only [Progress, stage, live, true_implies] at progress
  obtain ⟨rs, k, ops, up⟩ := progress
  unfold doParseS5Request
  rw [assertIdle_of_quiet quiet]
  simp only [flight_eq_iff, Flight.quiet] at quiet
  dsimp only
  split
  · exact common.branch alive (by simp [Adds, quiet]) (by simp)
      (by simp [Progress, stage, rs, ops, up])
  split
  · exact common.branch alive (by simp [Adds, quiet, k, ops])
      (by simp [Shape, flight_eq_iff, Flight.quiet, quiet, stage])
      (by simp [Progress, rs, k, ops, up, stage])
  iterate 2
    split
    · exact common.branch alive (by simp [Adds, k, ops]) (by simp)
        (by simp [Progress, stage, rs, ops, up])
  split
  · exact common.branch alive (by simp [Adds, k, ops]) (by simp)
      (by simp [Progress, stage, rs, ops, up])
  · rename_i udp
    exact common.branch alive (by simp [Adds, quiet, k, ops])
      (by simp [Shape, flight_eq_iff, Flight.quiet, quiet])
      (by simp [Progress, rs, k, ops, up, udp])
  -- the CONNECT branch creates the cipher and `init_pkg`, then starts the upstream
  split
  · rename_i overTls
    exact ⟨fun _ => by simp [Shape, flight_eq_iff, Flight.quiet, quiet, overTls], fun _ => alive,
      by simp [Progress, rs, k, ops, up], common.create k ops alive (by simp [Adds, alive])⟩
  rename_i overTls
  split
  · exact ⟨fun _ => by simp [Shape, flight_eq_iff, Flight.quiet, quiet, overTls], fun _ => alive,
      by simp [Progress, rs, k, ops, up], common.create k ops alive (by simp [Adds, alive])⟩
  · rename_i addr literal
    exact inv_doConnectSsrServer (by simpa using overTls) alive
      (by simp [flight_eq_iff, Flight.quiet, quiet]) (.inl (by simp [stage]))
      (by simp [rs]) (by simp [k]) (by simp [ops]) (by simp [up]) (.inl literal)
      (common.create k ops alive (by simp [Adds, alive]))

/-- `do_resolve_ssr_server_host_aftercare` answers a failed lookup with `05 04` and connects
to the address a successful lookup delivered, with `remote_port` patched in. -/
theorem inv_doResolveSsrServerHostAftercare (raw : env.config.overTlsEnable = false)
    (entry : Entry env .idle u) (stage : u.stage = .resolveSsrServerHostDone)
    (resolved : 0 ≤ u.outgoing.result → (u.outgoing.result, u.outgoing.addr) ∈ lookups u.trace) :
    Inv env (doResolveSsrServerHostAftercare env a u) := by
  obtain ⟨-, alive, quiet, progress, common⟩ := entry
  simp only [Progress, stage] at progress
  obtain ⟨rs, k, ops, up⟩ := progress
  unfold doResolveSsrServerHostAftercare
  rw [assertIdle_of_quiet quiet]
  simp only [flight_eq_iff, Flight.quiet] at quiet
  dsimp only
  split_ifs with failed
  · exact common.branch alive (by simp [Adds, quiet])
      (by simp [Shape, flight_eq_iff, Flight.quiet, quiet])
      (by simp [Progress, rs, k, ops, up])
  · have found := resolved (Int.not_lt.mp failed)
    exact inv_doConnectSsrServer raw alive (by simp [flight_eq_iff, Flight.quiet, quiet])
      (.inr (by simp [stage])) (by simp [rs]) (by simp [k]) (by simp [ops]) (by simp [up])
      (.inr ⟨(u.outgoing.result, u.outgoing.addr), by simp [found], Int.not_lt.mp failed, rfl⟩)
      (common.extend ⟨by simp, by simp [Adds, quiet], .inl rfl, rfl, rfl, rfl⟩)

/-- `do_connect_ssr_server_done` encrypts `init_pkg` as the cipher's first operation and
makes it the first payload, or answers `05 05`. -/
theorem inv_doConnectSsrServerDone (raw : env.config.overTlsEnable = false)
    (entry : Entry env .idle u) (stage : u.stage = .connectingSsrServer) :
    Inv env (doConnectSsrServerDone a u) := by
  obtain ⟨live, alive, quiet, progress, common⟩ := entry
  simp only [Progress, stage, live, true_implies] at progress
  obtain ⟨rs, k, ops, up⟩ := progress
  have pkg : u.initPkg = some (initialPackageCreate u.parser) := by
    simp [common.initPkg, k, alive]
  unfold doConnectSsrServerDone
  rw [assertIdle_of_quiet quiet]
  simp only [flight_eq_iff, Flight.quiet] at quiet
  dsimp only
  split_ifs with connected
  · split
    · exact ⟨by simp, fun _ => alive, by simp [Progress, stage, rs, k, up],
        common.encryptInitPkg a.encrypt ops up
          ⟨by simp, .inl (by simp [Adds, pkg]), rfl, rfl, rfl, rfl⟩⟩
    · rename_i buf encrypted
      exact ⟨fun _ => by simp [Shape, flight_eq_iff, Flight.quiet, quiet, raw], fun _ => alive,
        by simp [Progress, rs, k, quiet],
        common.encryptInitPkg a.encrypt ops up
          ⟨by simp, .inr ⟨buf, encrypted, by simp [Adds, pkg, quiet]⟩, rfl, rfl, rfl, rfl⟩⟩
  · exact common.branch alive (by simp [Adds, quiet])
      (by simp [Shape, flight_eq_iff, Flight.quiet, quiet])
      (by simp [Progress, rs, k, ops, up])

/-- `do_socks5_reply_success` writes `05 00 00 ‖ init_pkg` as the second reply, after the
upstream received the encrypted `init_pkg`. -/
theorem inv_doSocks5ReplySuccess {v : TunnelCtx} (ready : ReplyReady env v) :
    Inv env (doSocks5ReplySuccess v) := by
  obtain ⟨alive, quiet, rs, k, used, sent, delivered, common⟩ := ready
  have reply : [5, 0, 0] ++ v.initPkg.getD [] = successReply v.parser := by
    simp [successReply, common.initPkg, k, alive]
  unfold doSocks5ReplySuccess
  rw [assertIdle_of_quiet quiet]
  dsimp only
  rw [reply]
  simp only [flight_eq_iff, Flight.quiet] at quiet
  exact common.branch alive (by simp [Adds, quiet])
    (fun _ => by cases tls : env.config.overTlsEnable <;>
      simp [Shape, flight_eq_iff, Flight.quiet, quiet, tls])
    ⟨by simp [rs, quiet], by simp [k], by simpa using used, by simpa using sent, v.trace, [],
      by simp [quiet], rs, delivered⟩

/-- `do_ssr_auth_sent` waits for feedback or replies success once the write of the
encrypted `init_pkg` completed. -/
theorem inv_doSsrAuthSent (raw : env.config.overTlsEnable = false) (entry : Entry env .idle u)
    (stage : u.stage = .ssrAuthSent)
    (written : .event (.writeDone .outgoing u.outgoing.result) ∈ u.trace) :
    Inv env (doSsrAuthSent a u) := by
  obtain ⟨-, alive, quiet, progress, common⟩ := entry
  simp only [Progress, stage] at progress
  obtain ⟨rs, k, used, sent⟩ := progress
  have delivered (nonneg : ¬u.outgoing.result < 0) : Delivered false u.trace :=
    ⟨u.outgoing.result, by omega, written⟩
  unfold doSsrAuthSent
  rw [assertIdle_of_quiet quiet]
  simp only [flight_eq_iff, Flight.quiet] at quiet
  dsimp only
  split_ifs with failed feedback
  · exact common.branch alive (by simp [Adds]) (by simp)
      (by simp [Progress, stage, rs, k, used, sent])
  · exact common.branch alive (by simp [Adds, quiet])
      (by simp [Shape, flight_eq_iff, Flight.quiet, quiet, raw])
      (by simp [Progress, rs, k, used, sent, (delivered failed).append])
  · exact inv_doSocks5ReplySuccess ⟨alive, by simpa [raw, flight_eq_iff] using quiet, rs, k, used,
      sent, raw ▸ delivered failed, common⟩

/-- `do_ssr_receipt_for_feedback` either writes the receipt (`true`) or leaves the tunnel
ready for the success reply, torn down or not (`false`). -/
theorem doSsrReceiptForFeedback_spec (raw : env.config.overTlsEnable = false)
    (entry : Entry env .idle u) (stage : u.stage = .ssrWaitingFeedback) :
    match doSsrReceiptForFeedback a u with
    | (v, true) => Inv env v
    | (v, false) => ReplyReady env v := by
  obtain ⟨-, alive, quiet, progress, common⟩ := entry
  simp only [Progress, stage] at progress
  obtain ⟨rs, k, used, sent, delivered⟩ := progress
  unfold doSsrReceiptForFeedback
  rw [assertIdle_of_quiet quiet]
  simp only [flight_eq_iff, Flight.quiet] at quiet
  dsimp only
  split_ifs
  · exact ⟨alive, by simpa [raw, flight_eq_iff] using quiet, by simpa, by simpa, by simpa, by simpa,
      by simp [raw, delivered.append],
      common.extend ⟨by simp, by simp [Adds, quiet], .inl rfl, rfl, rfl, rfl⟩⟩
  · rcases a.decrypt.feedback with _ | feedback <;> dsimp only
    · exact ⟨alive, by simpa [raw, flight_eq_iff] using quiet, by simpa, by simpa, by simp [used],
        by simpa, by simp [raw, delivered.append],
        common.extendOps used sent ⟨by simp, by simp [AddsLater, quiet], rfl, rfl, rfl, rfl⟩⟩
    · exact common.branchOps alive used sent (by simp [AddsLater, quiet])
        (by simp [Shape, flight_eq_iff, Flight.quiet, quiet, raw])
        (by simp [Progress, rs, k, used, sent, delivered.append])

/-- `do_launch_streaming` arms both reads once the success reply went out. -/
theorem inv_doLaunchStreaming (raw : env.config.overTlsEnable = false) (entry : Entry env .idle u)
    (stage : u.stage = .authComplitionDone) : Inv env (doLaunchStreaming u) := by
  obtain ⟨-, alive, quiet, progress, common⟩ := entry
  simp only [Progress, stage] at progress
  obtain ⟨rs, k, used, sent, after⟩ := progress
  rw [raw] at after
  unfold doLaunchStreaming
  rw [assertIdle_of_quiet quiet]
  simp only [flight_eq_iff, Flight.quiet] at quiet
  dsimp only
  split_ifs
  · exact common.branch alive (by simp [Adds, quiet]) (by simp)
      (by simp [Progress, stage, rs, k, used, sent, raw, after.append])
  · exact common.branch alive (by simp [Adds, quiet])
      (by simp [Shape, TunnelCtx.flight, Flight.Streaming, quiet, raw])
      (by simp [Progress, rs, k, used, sent, raw, after.append])

/-- `tunnel_tls_do_launch_streaming` arms the read of the client once the success reply
went out, or closes the TLS transport. -/
theorem inv_tunnelTlsDoLaunchStreaming (overTls : env.config.overTlsEnable = true)
    (entry : Entry env .connected u) (stage : u.stage = .authComplitionDone) :
    Inv env (tunnelTlsDoLaunchStreaming u) := by
  obtain ⟨-, alive, quiet, progress, common⟩ := entry
  simp only [Progress, stage] at progress
  obtain ⟨rs, k, used, sent, after⟩ := progress
  rw [overTls] at after
  unfold tunnelTlsDoLaunchStreaming
  rw [assertIdle_of_quiet quiet]
  simp only [flight_eq_iff, Flight.quiet] at quiet
  dsimp only
  split_ifs <;>
    exact common.branch alive (by simp [Adds, quiet])
      (by simp [Shape, flight_eq_iff, Flight.quiet, quiet, overTls, stage])
      (by simp [Progress, rs, k, used, sent, overTls, after.append, stage])

/-- `tunnel_tls_on_connection_established` encrypts `init_pkg` as the cipher's first
operation and sends it as the first payload, after which the upstream owes a reply, or
closes the TLS transport. -/
theorem inv_tunnelTlsOnConnectionEstablished (overTls : env.config.overTlsEnable = true)
    (entry : Entry env .connected u) (stage : u.stage = .tlsConnecting)
    (fresh : cipherOps u.trace = []) : Inv env (tunnelTlsOnConnectionEstablished a u) := by
  obtain ⟨-, alive, quiet, progress, common⟩ := entry
  simp only [Progress, stage] at progress
  obtain ⟨rs, k, -, up⟩ := progress
  have pkg : u.initPkg = some (initialPackageCreate u.parser) := by
    simp [common.initPkg, k, alive]
  unfold tunnelTlsOnConnectionEstablished
  rw [assertIdle_of_quiet quiet]
  simp only [flight_eq_iff, Flight.quiet] at quiet
  dsimp only
  split
  · exact ⟨fun _ => by simp [Shape, flight_eq_iff, Flight.quiet, quiet, overTls, stage],
      fun _ => alive, by simp [Progress, stage, rs, k, up],
      common.encryptInitPkg a.encrypt fresh up
        ⟨by simp, .inl (by simp [Adds, pkg]), rfl, rfl, rfl, rfl⟩⟩
  · rename_i buf encrypted
    exact ⟨fun _ => by simp [Shape, flight_eq_iff, Flight.quiet, quiet, overTls], fun _ => alive,
      by simp [Progress, rs, k],
      common.encryptInitPkg a.encrypt fresh up
        ⟨by simp, .inr ⟨buf, encrypted, by simp [Adds, pkg]⟩, rfl, rfl, rfl, rfl⟩⟩

/-- `tunnel_tls_on_data_received` answers the first frame, once the transport has marked
the reply received, with the success reply; a later frame trips `ASSERT(false)`, which is
not a socket-state expectation, and changes nothing else. -/
theorem inv_tunnelTlsOnDataReceived {data : List UInt8} (inv : Inv env u)
    (live : u.terminated = false) (connected : u.tls = .connected) :
    Inv env (tunnelTlsOnDataReceived a data { u with awaitingReply := false }) := by
  obtain ⟨shape, alive, progress, common⟩ := inv
  have shape := shape live
  unfold tunnelTlsOnDataReceived
  dsimp only
  split_ifs with first failed
  rotate_right
  · exact ⟨fun _ => shape.clearReply first, fun _ => alive live,
      progress.frame _ rfl (by simp [Obs.Silent, Obs.Inert]) rfl rfl rfl rfl,
      common.frame _ rfl (by simp [Obs.Silent, Obs.Inert]) rfl rfl rfl rfl⟩
  all_goals
    simp only [Shape, Progress, first, flight_eq_iff, Flight.quiet, connected] at shape progress
    obtain ⟨overTls, quiet⟩ := shape
    simp only [reduceCtorEq, and_false, or_false] at quiet
    obtain ⟨rs, k, used, sent, tlsSent⟩ := progress
  · exact common.branchOps (alive live) used sent (by simp [AddsLater, quiet])
      (by simp [Shape, flight_eq_iff, Flight.quiet, quiet, overTls, first])
      (by simp [Progress, first, rs, k, used, sent, exists_or, tlsSent])
  · simp only [Bool.not_eq_true', Bool.not_eq_false] at failed
    obtain ⟨buf, tlsSent⟩ := tlsSent
    exact inv_doSocks5ReplySuccess ⟨alive live, by simp [flight_eq_iff, Flight.quiet, quiet,
        overTls, connected], by simp [rs], by simp [k], by simp [used], by simp [sent],
      by simp only [overTls, Delivered, ite_true]
         exact ⟨⟨buf, by simp [tlsSent]⟩, data, a.decrypt, failed, by simp⟩,
      common.extendOps used sent ⟨by simp, by simp [AddsLater, quiet], rfl, rfl, rfl, rfl⟩⟩

/-- `tunnel_dying` releases the cipher, if one was created, and `init_pkg` of a torn-down
tunnel. -/
theorem inv_tunnelDying (inv : Inv env u) (terminated : u.terminated = true)
    (alive : u.dead = false) : Inv env (tunnelDying u) := by
  obtain ⟨-, -, progress,
    ⟨faults, upstream, created, cipher, -, firstOp, firstPayload, released⟩⟩ := inv
  unfold tunnelDying
  refine ⟨fun live => by simp [terminated] at live, fun live => by simp [terminated] at live, ?_,
    ⟨by simp [faults], fun addr member => ?_, by simp [created], by simp, by simp,
      by simpa using firstOp, by simpa using firstPayload, by simp [released, alive, cipher]⟩⟩
  · exact progress.extend ⟨by simp, by simp [Unread], rfl, rfl, rfl, rfl⟩
  · obtain ⟨raw, accepted, known⟩ := upstream addr (by simpa using member)
    exact ⟨raw, accepted, known.mono (by simp)⟩

/-- A read completion in raw streaming hands the bytes, run through the cipher, to the
other socket. -/
theorem inv_tunnelTraditionalStreaming_read {side : Side} {r : Int} {data : List UInt8}
    (inv : Inv env u) (live : u.terminated = false) (stage : u.stage = .streaming)
    (busy : (u.socket side).rdstate = .busy) :
    Inv env (tunnelTraditionalStreaming a side
      (u.setSocket side { u.socket side with rdstate := .done, result := r, buf := data })) := by
  obtain ⟨shape, alive, progress, common⟩ := inv
  have shape := shape live
  simp only [Shape, stage] at shape
  obtain ⟨raw, streaming⟩ := shape
  have sink := streaming.sink_stop_of_read busy
  obtain ⟨-, inWr, -, outWr⟩ := streaming.not_done
  simp only [Progress, stage] at progress
  obtain ⟨-, ⟨rest, rs⟩, k, used, sent, after⟩ := progress
  rw [tunnelTraditionalStreaming_readDone (by cases side <;> assumption)]
  simp only [Flight.Streaming, TunnelCtx.flight] at streaming
  obtain ⟨conn, res, tls, inbound, outbound⟩ := streaming
  cases side <;> simp only [socket_incoming, socket_outgoing, Side.other_incoming,
    Side.other_outgoing] at busy sink <;> dsimp only [tunnelExtractData] <;> split_ifs <;>
    (try split) <;>
    exact common.branchOps (alive live) used sent (by simp [AddsLater, sink])
      (by simp [Shape, stage, TunnelCtx.flight, Flight.Streaming, conn, res, tls, inbound,
        outbound, busy, sink, raw])
      (by simp [Progress, stage, raw, rs, k, used, sent, after.append])

/-- A write completion in raw streaming re-arms the read whose bytes it carried. -/
theorem inv_tunnelTraditionalStreaming_write {side : Side} {r : Int}
    (inv : Inv env u) (live : u.terminated = false) (stage : u.stage = .streaming)
    (busy : (u.socket side).wrstate = .busy) :
    Inv env (tunnelTraditionalStreaming a side
      (u.setSocket side { u.socket side with wrstate := .done, result := r })) := by
  obtain ⟨shape, alive, progress, common⟩ := inv
  have shape := shape live
  simp only [Shape, stage] at shape
  obtain ⟨raw, streaming⟩ := shape
  have source := streaming.source_stop_of_write busy
  obtain ⟨inRd, -, outRd, -⟩ := streaming.not_done
  simp only [Progress, stage] at progress
  obtain ⟨-, ⟨rest, rs⟩, k, used, sent, after⟩ := progress
  rw [tunnelTraditionalStreaming_writeDone (by cases side <;> assumption)]
  simp only [Flight.Streaming, TunnelCtx.flight] at streaming
  obtain ⟨conn, res, tls, inbound, outbound⟩ := streaming
  cases side <;> simp only [socket_incoming, socket_outgoing, Side.other_incoming,
    Side.other_outgoing] at busy source <;> dsimp only <;> split_ifs <;>
    exact common.branch (alive live) (by simp [Adds, source])
      (by simp [Shape, stage, TunnelCtx.flight, Flight.Streaming, conn, res, tls, inbound,
        outbound, busy, source, raw])
      (by simp [Progress, stage, raw, rs, k, used, sent, after.append])

/-- The client's bytes in TLS streaming go to the TLS transport encrypted, or the transport
is closed when the cipher fails; the read of the client is armed again either way. -/
theorem inv_tunnelTlsClientIncomingStreaming {r : Int} {data : List UInt8}
    (inv : Inv env u) (live : u.terminated = false) (stage : u.stage = .tlsStreaming) :
    Inv env (tunnelTlsClientIncomingStreaming a .incoming
      (u.setSocket .incoming { u.incoming with rdstate := .done, result := r, buf := data })) := by
  obtain ⟨shape, alive, progress, common⟩ := inv
  have shape := shape live
  simp only [Shape, stage, flight_eq_iff, Flight.quiet] at shape
  obtain ⟨overTls, phase⟩ := shape
  have inWr : u.incoming.wrstate = .stop := by rcases phase with h | h <;> exact h.2.1
  simp only [Progress, stage] at progress
  obtain ⟨rs, k, used, sent, after⟩ := progress
  rw [overTls] at after
  unfold tunnelTlsClientIncomingStreaming tunnelExtractData
  simp only [check, faultIf, inWr, setSocket_incoming, decide_True, Bool.not_true,
    Bool.false_eq_true, ↓reduceIte, List.append_nil, socket_incoming, reduceCtorEq, ne_eq,
    not_true_eq_false, and_self, not_false_eq_true, or_true, decide_eq_true_eq]
  split <;>
    exact common.branchOps (alive live) used sent (by simp [AddsLater])
      (by rcases phase with phase | phase <;>
        simp [Shape, flight_eq_iff, Flight.quiet, phase, overTls, stage])
      (by simp [Progress, stage, rs, k, used, sent, overTls, after.append])

end Handlers

end SsrClient
