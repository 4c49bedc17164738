import SsrClient.Stages

/-!
# Every step keeps the invariant

A completion is delivered only for an operation in flight, and `Shape` says which stage
owns each operation; so each enabled event reaches the handler that expects it, in the
state `Entry` describes once `do_next` has latched the completion.  The handler lemmas of
the previous file then give the invariant back.  By induction over runs, it holds in every
reachable state.
-/

namespace SsrClient

open TunnelCtx

section Entries

variable {env : ServerEnv} {t : TunnelCtx} {p : TlsPhase} {side : Side}

/-- A read completion, delivered and latched by `do_next`. -/
theorem Inv.entryRead {r : Int} {data : List UInt8} (inv : Inv env t) (live : t.terminated = false)
    (quiet : (t.setRdstate side .stop).flight = Flight.quiet p) :
    Entry env p
      ((deliver (t.record (.event (.readDone side r data))) (.readDone side r data)).latchRead
        side) := by
  have trace :
      ((deliver (t.record (.event (.readDone side r data))) (.readDone side r data)).latchRead
        side).trace = t.trace ++ [.event (.readDone side r data)] := by
    cases side <;> simp [deliver]
  cases side <;>
  exact ⟨live, inv.alive live, quiet, inv.progress.frame _ trace (by simp) rfl rfl rfl rfl,
    inv.common.frame _ trace (by simp) rfl rfl rfl rfl⟩

/-- A write completion, delivered and latched by `do_next`. -/
theorem Inv.entryWrite {r : Int} (inv : Inv env t) (live : t.terminated = false)
    (quiet : (t.setWrstate side .stop).flight = Flight.quiet p) :
    Entry env p ((deliver (t.record (.event (.writeDone side r))) (.writeDone side r)).latchWrite
      side) := by
  have trace : ((deliver (t.record (.event (.writeDone side r))) (.writeDone side r)).latchWrite
      side).trace = t.trace ++ [.event (.writeDone side r)] := by
    cases side <;> simp [deliver]
  cases side <;>
  exact ⟨live, inv.alive live, quiet, inv.progress.frame _ trace (by simp) rfl rfl rfl rfl,
    inv.common.frame _ trace (by simp) rfl rfl rfl rfl⟩

end Entries

section Steps

variable {env : ServerEnv} {a : Answers} {t : TunnelCtx} {side : Side}

/-- A read completion reaches the handler of the stage that armed the read. -/
theorem Inv.step_readDone {r : Int} {data : List UInt8} (inv : Inv env t)
    (live : t.terminated = false) (busy : (t.socket side).rdstate = .busy) :
    Inv env (step env a t (.readDone side r data)) := by
  have shape := inv.shape live
  have recorded := inv.record (Obs.silent_event (.readDone side r data))
  rcases Shape.read_busy shape busy with
      ⟨rfl, stage | stage | stage | stage⟩ | ⟨rfl, stage | stage⟩ <;>
    simp only [Shape, stage] at shape <;>
    simp only [step, dispatch, doNext, deliver_stage, record_stage, stage]
  case inl.intro.inl =>
    exact inv_doHandshake (inv.entryRead live (by rw [flight_setRdstate, shape]; rfl))
      (by simp [stage])
  case inl.intro.inr.inl =>
    exact inv_doParseS5Request (inv.entryRead live (by rw [flight_setRdstate, shape]; rfl))
      (by simp [stage])
  case inl.intro.inr.inr.inl =>
    exact inv_tunnelTlsClientIncomingStreaming recorded live stage
  case inl.intro.inr.inr.inr =>
    exact inv_tunnelTraditionalStreaming_read recorded live stage busy
  case inr.intro.inl =>
    have spec := @doSsrReceiptForFeedback_spec env a _ shape.1
      (@Inv.entryRead env t .idle .outgoing r data inv live
        (by rw [flight_setRdstate, shape.2]; rfl))
      (by simp [stage])
    split <;> rename_i v heq <;> simp only [heq] at spec
    · exact spec
    · exact inv_doSocks5ReplySuccess spec
  case inr.intro.inr =>
    exact inv_tunnelTraditionalStreaming_read recorded live stage busy

/-- A write completion reaches the handler of the stage that armed the write. -/
theorem Inv.step_writeDone {r : Int} (inv : Inv env t) (live : t.terminated = false)
    (busy : (t.socket side).wrstate = .busy) : Inv env (step env a t (.writeDone side r)) := by
  have shape := inv.shape live
  have recorded := inv.record (Obs.silent_event (.writeDone side r))
  rcases Shape.write_busy shape busy with
      ⟨rfl, stage | stage | stage | stage | stage⟩ | ⟨rfl, stage | stage | stage⟩ <;>
    simp only [Shape, stage] at shape <;>
    simp only [step, dispatch, doNext, deliver_stage, record_stage, stage]
  case inl.intro.inl =>
    exact inv_doWaitS5Request (inv.entryWrite live (by rw [flight_setWrstate, shape]; rfl))
      (by simp [stage])
  case inl.intro.inr.inl =>
    have entry := @Inv.entryWrite env t .idle .incoming r inv live
      (by rw [flight_setWrstate, shape]; rfl)
    exact Inv.tunnelShutdown entry.progress entry.common
  case inl.intro.inr.inr.inl =>
    exact Inv.tunnelShutdown
      (inv.progress.frame (.event (.writeDone .incoming r)) (by simp [deliver]) (by simp)
        rfl rfl rfl rfl)
      (inv.common.frame (.event (.writeDone .incoming r)) (by simp [deliver]) (by simp)
        rfl rfl rfl rfl)
  case inl.intro.inr.inr.inr.inl =>
    cases overTls : env.config.overTlsEnable
    · simp only [overTls, true_and, Bool.false_eq_true, false_and, or_false] at shape
      exact inv_doLaunchStreaming overTls
        (inv.entryWrite live (by rw [flight_setWrstate, shape]; rfl)) (by simp [stage])
    · simp only [overTls, Bool.true_eq_false, false_and, true_and, false_or] at shape
      rcases shape with shape | closing
      · exact inv_tunnelTlsDoLaunchStreaming overTls
          (inv.entryWrite live (by rw [flight_setWrstate, shape]; rfl)) (by simp [stage])
      · exact absurd ((congrArg Flight.inWr closing).symm.trans busy) (by decide)
  case inl.intro.inr.inr.inr.inr =>
    exact inv_tunnelTraditionalStreaming_write recorded live stage busy
  case inr.intro.inl =>
    exact inv_doSsrAuthSent shape.1 (inv.entryWrite live (by rw [flight_setWrstate, shape.2]; rfl))
      (by simp [stage]) (by simp [deliver])
  case inr.intro.inr.inl =>
    obtain ⟨live', alive, quiet, progress, common⟩ :=
      @Inv.entryWrite env t .idle .outgoing r inv live (by rw [flight_setWrstate, shape.2]; rfl)
    simp only [Progress, deliver_stage, record_stage, latchWrite, check, faultIf, setWrstate,
      setSocket_outgoing, stage] at progress
    obtain ⟨rs, k, used, sent, delivered⟩ := progress
    exact inv_doSocks5ReplySuccess ⟨alive, by simpa [shape.1] using quiet, rs, k, used, sent,
      by simpa [shape.1] using delivered, common⟩
  case inr.intro.inr.inr =>
    exact inv_tunnelTraditionalStreaming_write recorded live stage busy

/-- The completion of the connect reaches `do_connect_ssr_server_done`. -/
theorem Inv.step_outgoingConnected {r : Int} (inv : Inv env t) (live : t.terminated = false)
    (connecting : t.connecting = true) : Inv env (step env a t (.outgoingConnected r)) := by
  have shape := inv.shape live
  have stage := Shape.connecting_stage shape connecting
  simp only [Shape, stage, flight_eq_iff, Flight.quiet] at shape
  obtain ⟨raw, flight⟩ := shape
  simp only [step, dispatch, doNext, deliver_stage, record_stage, stage]
  exact inv_doConnectSsrServerDone raw
    ⟨live, inv.alive live, by simp [flight_eq_iff, deliver, Flight.quiet, flight],
      inv.progress.frame _ rfl (Obs.silent_event (.outgoingConnected r)) rfl rfl rfl rfl,
      inv.common.frame _ rfl (Obs.silent_event (.outgoingConnected r)) rfl rfl rfl rfl⟩ stage

/-- The completion of the lookup reaches `do_resolve_ssr_server_host_aftercare`. -/
theorem Inv.step_getaddrinfoDone {r : Int} {addr : SockAddr} (inv : Inv env t)
    (live : t.terminated = false) (resolving : t.resolving = true) :
    Inv env (step env a t (.getaddrinfoDone r addr)) := by
  have shape := inv.shape live
  have stage := Shape.resolving_stage shape resolving
  simp only [Shape, stage, flight_eq_iff, Flight.quiet] at shape
  obtain ⟨raw, flight⟩ := shape
  simp only [step, dispatch, doNext, deliver_stage, record_stage, stage]
  exact inv_doResolveSsrServerHostAftercare raw
    ⟨live, inv.alive live, by simp [flight_eq_iff, deliver, Flight.quiet, flight],
      inv.progress.frame _ rfl (Obs.silent_event (.getaddrinfoDone r addr)) rfl rfl rfl rfl,
      inv.common.frame _ rfl (Obs.silent_event (.getaddrinfoDone r addr)) rfl rfl rfl rfl⟩ stage
    (fun resolved => by simp only [deliver] at resolved; simp [deliver, resolved])

/-- The TLS transport's connection reaches `tunnel_tls_on_connection_established`. -/
theorem Inv.step_tlsConnectionEstablished (inv : Inv env t) (live : t.terminated = false)
    (connecting : t.tls = .connecting) :
    Inv env (step env a t .tlsConnectionEstablished) := by
  have shape := inv.shape live
  have stage := Shape.tls_connecting shape connecting
  have progress := inv.progress
  simp only [Shape, stage] at shape
  simp only [Progress, stage, live, connecting, true_implies] at progress
  obtain ⟨overTls, flight | closing⟩ := shape
  · obtain ⟨rs, k, fresh, up⟩ := progress
    exact inv_tunnelTlsOnConnectionEstablished overTls
      ⟨live, inv.alive live,
        by simp only [flight_eq_iff, Flight.quiet] at flight ⊢; simp [deliver, flight],
        by simp [Progress, deliver, stage, rs, k, up],
        inv.common.frame _ rfl (Obs.silent_event .tlsConnectionEstablished) rfl rfl rfl rfl⟩
      (by simp [deliver, stage]) (by simp [deliver, fresh])
  · exact absurd ((congrArg Flight.tls closing).symm.trans connecting) (by decide)

/-- Every enabled event of a state satisfying the invariant leads to a state satisfying it. -/
theorem Inv.after_step {e : Event} (inv : Inv env t) (enabled : Enabled t e) :
    Inv env (step env a t e) := by
  cases e with
  | readDone side r data => exact inv.step_readDone enabled.1 enabled.2.1
  | writeDone side r => exact inv.step_writeDone enabled.1 enabled.2
  | outgoingConnected r => exact inv.step_outgoingConnected enabled.1 enabled.2
  | getaddrinfoDone r addr => exact inv.step_getaddrinfoDone enabled.1 enabled.2
  | timeoutExpire side => exact inv.record (Obs.silent_event _)
  | tlsConnectionEstablished => exact inv.step_tlsConnectionEstablished enabled.1 enabled.2
  | tlsDataReceived data =>
      exact inv_tunnelTlsOnDataReceived (inv.record (Obs.silent_event _)) enabled.1 enabled.2
  | tlsShuttingDown =>
      have recorded := inv.record (Obs.silent_event .tlsShuttingDown)
      exact Inv.tunnelShutdown recorded.progress recorded.common
  | clientShutdown =>
      have recorded := inv.record (Obs.silent_event .clientShutdown)
      exact Inv.tunnelShutdown recorded.progress recorded.common
  | dying => exact inv_tunnelDying (inv.record (Obs.silent_event _)) enabled.1 enabled.2

/-- The invariant holds in every reachable state. -/
theorem Inv.of_reachable (reachable : Reachable env t) : Inv env t := by
  induction reachable with
  | init => exact Inv.init env
  | step a e _ enabled inv => exact inv.after_step enabled

end Steps

end SsrClient
