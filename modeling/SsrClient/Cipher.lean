import SsrClient.Safety

/-!
# The cipher context and `init_pkg`

`do_parse_s5_request` creates `init_pkg` and the cipher together, in the CONNECT branch,
and `tunnel_dying` releases both.  In between, the cipher's first operation encrypts a
clone of `init_pkg`, and its output is the first payload the upstream receives; the client
is not read until streaming starts.
-/

namespace SsrClient

open TunnelCtx

/-- The stages between a parsed CONNECT request and the start of streaming. -/
def TunnelStage.awaitsUpstream : TunnelStage → Bool
  | .resolveSsrServerHostDone | .connectingSsrServer | .ssrAuthSent | .ssrWaitingFeedback
  | .ssrReceiptOfFeedbackSent | .tlsConnecting | .tlsFirstPackage | .authComplitionDone => true
  | _ => false

/-- The stages before a CONNECT request is parsed. -/
def TunnelStage.beforeConnect : TunnelStage → Bool
  | .handshake | .handshakeReplied | .s5Request | .s5UdpAccoc => true
  | _ => false

/-- The stages from the start of the upstream connection through streaming. -/
def TunnelStage.afterConnect : TunnelStage → Bool
  | .tlsConnecting | .resolveSsrServerHostDone | .connectingSsrServer | .ssrAuthSent
  | .ssrWaitingFeedback | .ssrReceiptOfFeedbackSent | .tlsFirstPackage | .authComplitionDone
  | .tlsStreaming | .streaming => true
  | _ => false

section Lifecycle

variable {env : ServerEnv} {t : TunnelCtx}

theorem Shape.incoming_idle {overTls : Bool} (shape : Shape overTls t)
    (awaiting : t.stage.awaitsUpstream = true) : t.incoming.rdstate ≠ .busy := by
  unfold Shape at shape
  split at shape <;> simp_all [TunnelStage.awaitsUpstream, flight_eq_iff, Flight.quiet]
  case h_11 => rcases shape with ⟨-, stop, -⟩ | ⟨-, ⟨stop, -⟩ | ⟨stop, -⟩⟩ <;> simp [stop]
  all_goals obtain ⟨-, ⟨stop, -⟩ | ⟨stop, -⟩⟩ := shape <;> simp [stop]

/-- The cipher's first operation encrypts a clone of `init_pkg`, no later one encrypts it
again, the first payload handed upstream is that encryption's output, and no read of the
client is armed while the tunnel waits for the upstream. -/
theorem initPkg_encrypted_first (reachable : Reachable env t) :
    InitPkgFirst (initialPackageCreate t.parser) (cipherOps t.trace) ∧
      PayloadFirst (cipherOps t.trace) (payloads t.trace) ∧
      (t.terminated = false → t.stage.awaitsUpstream = true → t.incoming.rdstate ≠ .busy) := by
  have inv := Inv.of_reachable reachable
  exact ⟨inv.common.firstOp, inv.common.firstPayload,
    fun live awaiting => (inv.shape live).incoming_idle awaiting⟩

theorem streamingTunnel_initPkg_first :
    InitPkgFirst (initialPackageCreate streamingTunnel.parser) (cipherOps streamingTunnel.trace) ∧
      PayloadFirst (cipherOps streamingTunnel.trace) (payloads streamingTunnel.trace) ∧
      (streamingTunnel.terminated = false → streamingTunnel.stage.awaitsUpstream = true →
        streamingTunnel.incoming.rdstate ≠ .busy) :=
  initPkg_encrypted_first streamingTunnel_reachable

/-- Before a CONNECT request is parsed the cipher was never created; only `s5_request` can be
left torn down with it, by a `socket_connect` that fails at once. -/
theorem Progress.creations_beforeConnect (progress : Progress env t)
    (before : t.stage.beforeConnect = true) (live : t.stage = .s5Request → t.terminated = false) :
    creations t.trace = 0 := by
  unfold Progress at progress
  split at progress <;> simp_all [TunnelStage.beforeConnect]

theorem Progress.creations_afterConnect (progress : Progress env t)
    (after : t.stage.afterConnect = true) : creations t.trace = 1 := by
  unfold Progress at progress
  split at progress <;> simp_all [TunnelStage.afterConnect]

/-- The cipher and `init_pkg` are present together; created at most once; absent before a
CONNECT request is parsed, torn down or not, except in `s5_request` once teardown has begun;
present from the upstream connection on; once created, gone only after `tunnel_dying`; and
released by `tunnel_dying` alone, the cipher exactly when one was created. -/
theorem cipher_initPkg_lifecycle (reachable : Reachable env t) :
    t.cipher.isSome = t.initPkg.isSome ∧ creations t.trace ≤ 1 ∧
      (t.stage.beforeConnect = true → (t.stage = .s5Request → t.terminated = false) →
        t.cipher = none ∧ t.initPkg = none) ∧
      (t.dead = false → t.stage.afterConnect = true → t.cipher.isSome ∧ t.initPkg.isSome) ∧
      (t.dead = false → creations t.trace = 1 →
        t.cipher = some ⟨1452⟩ ∧ t.initPkg = some (initialPackageCreate t.parser)) ∧
      releases t.trace = if t.dead then
        (if creations t.trace = 1 then [.tunnelCipherRelease] else []) ++ [.bufferRelease]
      else [] := by
  obtain ⟨-, -, progress, ⟨-, -, created, cipher, initPkg, -, -, released⟩⟩ :=
    Inv.of_reachable reachable
  refine ⟨by rw [cipher, initPkg]; split_ifs <;> rfl, created, fun before live => ?_,
    fun alive after => ?_, fun alive once => by simp [cipher, initPkg, alive, once], released⟩
  · simp [cipher, initPkg, progress.creations_beforeConnect before live]
  · simp [cipher, initPkg, alive, progress.creations_afterConnect after]

theorem streamingTunnel_cipher_lifecycle :
    streamingTunnel.cipher.isSome = streamingTunnel.initPkg.isSome ∧
      creations streamingTunnel.trace ≤ 1 ∧
      (streamingTunnel.stage.beforeConnect = true →
        (streamingTunnel.stage = .s5Request → streamingTunnel.terminated = false) →
        streamingTunnel.cipher = none ∧ streamingTunnel.initPkg = none) ∧
      (streamingTunnel.dead = false → streamingTunnel.stage.afterConnect = true →
        streamingTunnel.cipher.isSome ∧ streamingTunnel.initPkg.isSome) ∧
      (streamingTunnel.dead = false → creations streamingTunnel.trace = 1 →
        streamingTunnel.cipher = some ⟨1452⟩ ∧
          streamingTunnel.initPkg = some (initialPackageCreate streamingTunnel.parser)) ∧
      releases streamingTunnel.trace = if streamingTunnel.dead then
        (if creations streamingTunnel.trace = 1 then [.tunnelCipherRelease] else []) ++
          [.bufferRelease] else [] :=
  cipher_initPkg_lifecycle streamingTunnel_reachable

/-- A CONNECT request whose `socket_connect` fails at once: `do_connect_ssr_server` tears
the tunnel down while its stage is still `s5_request`. -/
def failedConnectRun : List (Answers × Event) :=
  [(answers greeting, .readDone .incoming 3 [5, 1, 0]),
    (answers greeting, .writeDone .incoming 2),
    ({ answers connectLoopback with connect := -1 },
      .readDone .incoming 10 [5, 1, 0, 1, 127, 0, 0, 1, 0x1F, 0x90])]

/-- The tunnel at the end of `failedConnectRun`. -/
def abortedTunnel : TunnelCtx := (run rawEnv initDoneCb failedConnectRun).getD initDoneCb

/-- A reachable tunnel in stage `s5_request` that holds the cipher and `init_pkg`. -/
theorem abortedTunnel_holds_cipher :
    Reachable rawEnv abortedTunnel ∧ abortedTunnel.stage = .s5Request ∧
      abortedTunnel.cipher.isSome ∧ abortedTunnel.initPkg.isSome :=
  ⟨reachable_of_run .init (by decide : run rawEnv initDoneCb failedConnectRun = some abortedTunnel),
    by decide, by decide, by decide⟩

example : releases (tunnelDying abortedTunnel).trace = [.tunnelCipherRelease, .bufferRelease] := by
  decide

end Lifecycle

end SsrClient
