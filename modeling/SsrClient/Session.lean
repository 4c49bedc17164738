import SsrClient.Safety

/-!
# The SOCKS5 session a tunnel runs

Seen from the SOCKS client, a tunnel reads the greeting, writes the method reply, reads
the request, works on the upstream connection, answers the request and then streams.
The sixteen stages of `client.c` refine these six phases.  This file first reads the
stage graph off the handlers (which stages each handler may move a tunnel to), then
shows that every edge of that graph is a forward move of the session, so that no run
of a tunnel ever goes back to an earlier phase.
-/

namespace SsrClient

open TunnelCtx

/-- The stage graph of `client.c`: the stages a handler moves a tunnel to from each stage. -/
def TunnelStage.successors : TunnelStage → List TunnelStage
  | .handshake => [.handshakeReplied, .kill]
  | .handshakeReplied => [.s5Request]
  | .s5Request =>
      [.s5UdpAccoc, .tlsConnecting, .resolveSsrServerHostDone, .connectingSsrServer, .kill]
  | .tlsConnecting => [.tlsFirstPackage]
  | .tlsFirstPackage => [.authComplitionDone]
  | .resolveSsrServerHostDone => [.connectingSsrServer, .kill]
  | .connectingSsrServer => [.ssrAuthSent, .kill]
  | .ssrAuthSent => [.ssrWaitingFeedback, .authComplitionDone]
  | .ssrWaitingFeedback => [.ssrReceiptOfFeedbackSent, .authComplitionDone]
  | .ssrReceiptOfFeedbackSent => [.authComplitionDone]
  | .authComplitionDone => [.streaming, .tlsStreaming]
  | .handshakeAuth | .s5UdpAccoc | .tlsStreaming | .streaming | .kill => []

section HandlerStages

variable {env : ServerEnv} {a : Answers} {u : TunnelCtx}

theorem doHandshake_stage :
    (doHandshake a u).stage ∈ [u.stage, .handshake, .handshakeReplied, .kill] := by
  unfold doHandshake
  dsimp only
  split_ifs <;> simp

theorem doWaitS5Request_stage : (doWaitS5Request u).stage ∈ [u.stage, .s5Request] := by
  unfold doWaitS5Request
  dsimp only
  split_ifs <;> simp

theorem doConnectSsrServer_stage :
    (doConnectSsrServer env a u).stage ∈ [u.stage, .kill, .connectingSsrServer] := by
  unfold doConnectSsrServer
  dsimp only
  split_ifs <;> simp

theorem doParseS5Request_stage :
    (doParseS5Request env a u).stage ∈ [u.stage, .s5Request, .s5UdpAccoc, .tlsConnecting,
      .resolveSsrServerHostDone, .connectingSsrServer, .kill] := by
  unfold doParseS5Request
  dsimp only
  repeat' split
  rotate_right
  · exact List.subset_def.mp (by simp) doConnectSsrServer_stage
  all_goals simp

theorem doResolveSsrServerHostAftercare_stage :
    (doResolveSsrServerHostAftercare env a u).stage ∈ [u.stage, .kill, .connectingSsrServer] := by
  unfold doResolveSsrServerHostAftercare
  dsimp only
  split
  · simp
  · exact List.subset_def.mp (by simp) doConnectSsrServer_stage

theorem doConnectSsrServerDone_stage :
    (doConnectSsrServerDone a u).stage ∈ [u.stage, .ssrAuthSent, .kill] := by
  unfold doConnectSsrServerDone
  dsimp only
  repeat' split
  all_goals simp

theorem doSocks5ReplySuccess_stage : (doSocks5ReplySuccess u).stage = .authComplitionDone := by
  simp [doSocks5ReplySuccess]

theorem doSsrAuthSent_stage :
    (doSsrAuthSent a u).stage ∈ [u.stage, .ssrWaitingFeedback, .authComplitionDone] := by
  unfold doSsrAuthSent
  dsimp only
  split_ifs <;> simp [doSocks5ReplySuccess_stage]

theorem doSsrReceiptForFeedback_stage :
    (doSsrReceiptForFeedback a u).1.stage ∈ [u.stage, .ssrReceiptOfFeedbackSent] := by
  unfold doSsrReceiptForFeedback
  dsimp only
  repeat' split
  all_goals simp

theorem doLaunchStreaming_stage : (doLaunchStreaming u).stage ∈ [u.stage, .streaming] := by
  unfold doLaunchStreaming
  dsimp only
  split_ifs <;> simp

theorem tunnelTlsDoLaunchStreaming_stage :
    (tunnelTlsDoLaunchStreaming u).stage ∈ [u.stage, .tlsStreaming] := by
  unfold tunnelTlsDoLaunchStreaming
  dsimp only
  split_ifs <;> simp

theorem tunnelTlsClientIncomingStreaming_stage {side : Side} :
    (tunnelTlsClientIncomingStreaming a side u).stage = u.stage := by
  unfold tunnelTlsClientIncomingStreaming tunnelExtractData
  dsimp only
  repeat' split
  all_goals simp

theorem tunnelTraditionalStreaming_stage {side : Side} :
    (tunnelTraditionalStreaming a side u).stage = u.stage := by
  unfold tunnelTraditionalStreaming tunnelExtractData
  dsimp only
  repeat' split
  all_goals simp

theorem tunnelTlsOnConnectionEstablished_stage :
    (tunnelTlsOnConnectionEstablished a u).stage ∈ [u.stage, .tlsFirstPackage] := by
  unfold tunnelTlsOnConnectionEstablished
  dsimp only
  split <;> simp

theorem tunnelTlsOnDataReceived_stage {data : List UInt8} :
    (tunnelTlsOnDataReceived a data u).stage ∈ u.stage :: u.stage.successors := by
  unfold tunnelTlsOnDataReceived
  dsimp only
  split_ifs with first <;> simp [doSocks5ReplySuccess_stage, first, TunnelStage.successors]

end HandlerStages

section StageGraph

variable {env : ServerEnv} {a : Answers}

/-- `do_next` follows the stage graph from any state. -/
theorem doNext_stage (side : Side) (t : TunnelCtx) :
    (doNext env a side t).stage ∈ t.stage :: t.stage.successors := by
  unfold doNext
  split <;> rename_i stage
  case h_1 => exact List.subset_def.mp (by simp [stage, TunnelStage.successors]) doHandshake_stage
  case h_3 =>
    exact List.subset_def.mp (by simp [stage, TunnelStage.successors]) doWaitS5Request_stage
  case h_4 =>
    exact List.subset_def.mp (by simp [stage, TunnelStage.successors]) doParseS5Request_stage
  case h_6 =>
    exact List.subset_def.mp (by simp [stage, TunnelStage.successors])
      doResolveSsrServerHostAftercare_stage
  case h_7 =>
    exact List.subset_def.mp (by simp [stage, TunnelStage.successors]) doConnectSsrServerDone_stage
  case h_8 => exact List.subset_def.mp (by simp [stage, TunnelStage.successors]) doSsrAuthSent_stage
  case h_9 =>
    have receipt := @doSsrReceiptForFeedback_stage a (t.latchRead .outgoing)
    split <;> rename_i result <;> simp only [result] at receipt
    · exact List.subset_def.mp (by simp [stage, TunnelStage.successors]) receipt
    · simp [doSocks5ReplySuccess_stage, stage, TunnelStage.successors]
  case h_11 =>
    split_ifs
    · exact List.subset_def.mp (by simp [stage, TunnelStage.successors])
        tunnelTlsDoLaunchStreaming_stage
    · exact List.subset_def.mp (by simp [stage, TunnelStage.successors]) doLaunchStreaming_stage
  all_goals simp [stage, doHandshakeAuth, doSocks5ReplySuccess_stage,
    tunnelTlsClientIncomingStreaming_stage, tunnelTraditionalStreaming_stage,
    TunnelStage.successors]

/-- Every enabled event of a reachable tunnel follows the stage graph.  Only the TLS
transport's connection needs the invariant: it reaches a tunnel in `tls_connecting`. -/
theorem step_stage {t : TunnelCtx} {e : Event} (reachable : Reachable env t)
    (enabled : Enabled t e) : (step env a t e).stage ∈ t.stage :: t.stage.successors := by
  have entered (side : Side) (u : TunnelCtx) (same : u.stage = t.stage) :
      (doNext env a side u).stage ∈ t.stage :: t.stage.successors := same ▸ doNext_stage side u
  cases e with
  | readDone side r data => exact entered side _ (by simp)
  | writeDone side r => exact entered side _ (by simp)
  | outgoingConnected r => exact entered .outgoing _ (by simp [deliver])
  | getaddrinfoDone r addr => exact entered .outgoing _ (by simp [deliver])
  | tlsConnectionEstablished =>
      have stage := Shape.tls_connecting ((Inv.of_reachable reachable).shape enabled.1) enabled.2
      exact List.subset_def.mp (by simp [deliver, stage, TunnelStage.successors])
        tunnelTlsOnConnectionEstablished_stage
  | tlsDataReceived data => simpa [step, dispatch, deliver] using tunnelTlsOnDataReceived_stage
  | timeoutExpire side => simp [step, dispatch, deliver]
  | tlsShuttingDown => simp [step, dispatch, deliver]
  | clientShutdown => simp [step, dispatch, deliver]
  | dying => simp [step, dispatch, deliver, tunnelDying]

end StageGraph

/-- The phases of a SOCKS5 session, as the client sees them. -/
inductive Phase
  | greeting
  | methodReply
  | request
  | upstream
  | reply
  | streaming
  deriving DecidableEq, Repr

/-- The phase a stage belongs to; `handshake_auth` is never entered. -/
def TunnelStage.phase : TunnelStage → Phase
  | .handshake => .greeting
  | .handshakeAuth | .handshakeReplied => .methodReply
  | .s5Request => .request
  | .tlsConnecting | .tlsFirstPackage | .resolveSsrServerHostDone | .connectingSsrServer
  | .ssrAuthSent | .ssrWaitingFeedback | .ssrReceiptOfFeedbackSent => .upstream
  | .s5UdpAccoc | .authComplitionDone | .kill => .reply
  | .tlsStreaming | .streaming => .streaming

/-- The forward moves of a session: the greeting is answered with a method reply or
refused with `05 FF`, the request is answered at once or taken upstream, the upstream's
outcome is answered, and a success reply starts streaming. -/
def Phase.next : Phase → Phase → Bool
  | .greeting, .methodReply | .greeting, .reply | .methodReply, .request
  | .request, .upstream | .request, .reply | .upstream, .reply | .reply, .streaming => true
  | _, _ => false

/-- How far a session has got. -/
def Phase.rank : Phase → Nat
  | .greeting => 0
  | .methodReply => 1
  | .request => 2
  | .upstream => 3
  | .reply => 4
  | .streaming => 5

theorem Phase.rank_lt_of_next {p q : Phase} (next : p.next q = true) : p.rank < q.rank := by
  revert next
  cases p <;> cases q <;> decide

/-- Every edge of the stage graph stays in its phase or is a forward move. -/
theorem successors_phase (s : TunnelStage) :
    ∀ s' ∈ s.successors, s'.phase = s.phase ∨ s.phase.next s'.phase = true := by
  cases s <;> decide

section Refinement

variable {env : ServerEnv} {t t' : TunnelCtx}

/-- The stage machine refines the session: every enabled event of a reachable tunnel
leaves its phase alone or makes a forward move. -/
theorem step_phase {a : Answers} {e : Event} (reachable : Reachable env t) (enabled : Enabled t e) :
    (step env a t e).stage.phase = t.stage.phase ∨
      t.stage.phase.next (step env a t e).stage.phase = true := by
  rcases List.mem_cons.mp (step_stage reachable enabled) with same | edge
  · exact .inl (congrArg TunnelStage.phase same)
  · exact successors_phase _ _ edge

/-- No run goes back to an earlier phase of the session. -/
theorem run_phase_rank_le {events : List (Answers × Event)} (reachable : Reachable env t)
    (ran : run env t events = some t') : t.stage.phase.rank ≤ t'.stage.phase.rank := by
  induction events generalizing t with
  | nil =>
      simp only [run, Option.some.injEq] at ran
      rw [ran]
  | cons head rest ih =>
      obtain ⟨a, e⟩ := head
      by_cases enabled : Enabled t e
      · simp only [run, enabled, ite_true] at ran
        have later := ih (reachable.step a e enabled) ran
        rcases step_phase reachable enabled with same | forward
        · rw [same] at later
          exact later
        · exact (Phase.rank_lt_of_next forward).le.trans later
      · simp [run, enabled] at ran

theorem connectRun_phase_rank_le :
    run rawEnv initDoneCb connectRun = some streamingTunnel ∧
      initDoneCb.stage.phase.rank ≤ streamingTunnel.stage.phase.rank :=
  have ran : run rawEnv initDoneCb connectRun = some streamingTunnel := by decide
  ⟨ran, run_phase_rank_le .init ran⟩

end Refinement

end SsrClient
