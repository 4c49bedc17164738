import SsrClient.Cipher

/-!
# What the SOCKS client is told

Before streaming the client receives at most two replies: the method reply, `05 00` or
`05 FF`, and after `05 00` at most one reply to its request.  The success reply
`05 00 00 ‖ init_pkg` goes out only after the upstream holds the encrypted `init_pkg`, and
`init_pkg` itself reads back as the request's destination.
-/

namespace SsrClient

open TunnelCtx

/-- The replies to a request: the UDP-ASSOCIATE reply, `05 02`, `05 04`, `05 05`, or the
success reply for the request `p`. -/
def RequestReply (env : ServerEnv) (p : S5Ctx) (reply : List UInt8) : Prop :=
  (∃ buf, reply = env.buildUdpAssocPackage env.config.udp env.config.listenHost
      env.config.listenPort buf) ∨
    reply = connectionNotAllowed ∨ reply = hostUnreachable ∨ reply = connectionRefused ∨
    reply = successReply p

/-- What a client may have been sent before streaming: nothing, `05 FF`, or `05 00`
followed by at most one request reply. -/
def HandshakeReplies (env : ServerEnv) (p : S5Ctx) (rs : List (List UInt8)) : Prop :=
  rs = [] ∨ rs = [[5, 255]] ∨ rs = [[5, 0]] ∨
    ∃ reply, rs = [[5, 0], reply] ∧ RequestReply env p reply

section Replies

variable {env : ServerEnv} {a : Answers} {t : TunnelCtx}

theorem Progress.handshakeReplies (progress : Progress env t) (early : t.stage ≠ .streaming) :
    HandshakeReplies env t.parser (replies t.trace) := by
  unfold Progress at progress
  split at progress
  case h_4 =>
    obtain ⟨⟨buf, rs⟩, -⟩ := progress
    exact .inr (.inr (.inr ⟨_, rs, .inl ⟨buf, rfl⟩⟩))
  case h_5 =>
    obtain ⟨rs | rs | rs | rs, -⟩ := progress
    · exact .inr (.inl rs)
    all_goals exact .inr (.inr (.inr ⟨_, rs, by simp [RequestReply]⟩))
  all_goals simp_all [HandshakeReplies, RequestReply]

theorem Progress.successAfter (progress : Progress env t) (connect : t.parser.cmd = .tcpConnect)
    {rest : List (List UInt8)}
    (second : replies t.trace = [5, 0] :: successReply t.parser :: rest) :
    SuccessAfter env.config.overTlsEnable t.parser t.trace := by
  unfold Progress at progress
  split at progress <;>
    simp_all [successReply, hostUnreachable, connectionNotAllowed, connectionRefused]

/-- A method reply is `05 00` exactly when the greeting offered `none`. -/
theorem doHandshake_method_reply {u : TunnelCtx} {m : List UInt8}
    (written : replies (doHandshake a u).trace = replies u.trace ++ [m]) :
    m = [5, 0] ↔ S5AuthMethod.none ∈ (doHandshake a u).parser.methods := by
  unfold doHandshake at written ⊢
  dsimp only at written ⊢
  split_ifs at written ⊢ <;> simp_all [canAuthNone, canAuthPasswd]
  subst written
  decide

/-- Before streaming the client is sent nothing, `05 FF`, or `05 00` and at most one
request reply, and a streaming tunnel sent `05 00` and the success reply before its data; a
success reply to a CONNECT comes after the upstream received the encrypted `init_pkg`; and a
method reply is `05 00` exactly when the greeting offered `none`. -/
theorem incoming_replies (reachable : Reachable env t) :
    (t.stage ≠ .streaming → HandshakeReplies env t.parser (replies t.trace)) ∧
    (t.stage = .streaming → ∃ rest, replies t.trace = [5, 0] :: successReply t.parser :: rest) ∧
    (t.parser.cmd = .tcpConnect → ∀ rest,
      replies t.trace = [5, 0] :: successReply t.parser :: rest →
      SuccessAfter env.config.overTlsEnable t.parser t.trace) ∧
    (∀ a r data m, t.stage = .handshake →
      replies (step env a t (.readDone .incoming r data)).trace = replies t.trace ++ [m] →
      (m = [5, 0] ↔
        S5AuthMethod.none ∈ (step env a t (.readDone .incoming r data)).parser.methods)) := by
  have progress := (Inv.of_reachable reachable).progress
  refine ⟨progress.handshakeReplies, fun streaming => ?_,
    fun connect _ second => progress.successAfter connect second, ?_⟩
  · simp only [Progress, streaming] at progress
    exact progress.2.1
  · intro a r data m stage written
    simp only [step, dispatch, doNext, deliver_stage, record_stage, stage] at written ⊢
    apply doHandshake_method_reply
    rw [written]
    simp [deliver]

/-- The tunnel after the greeting and the method reply, waiting for the request. -/
def requestTunnel : TunnelCtx := (run rawEnv initDoneCb (connectRun.take 2)).getD initDoneCb

theorem requestTunnel_reachable : Reachable rawEnv requestTunnel :=
  reachable_of_run .init
    (by decide : run rawEnv initDoneCb (connectRun.take 2) = some requestTunnel)

theorem streamingTunnel_replies :
    ((streamingTunnel.stage ≠ .streaming →
      HandshakeReplies rawEnv streamingTunnel.parser (replies streamingTunnel.trace)) ∧
    (streamingTunnel.stage = .streaming → ∃ rest,
      replies streamingTunnel.trace = [5, 0] :: successReply streamingTunnel.parser :: rest) ∧
    (streamingTunnel.parser.cmd = .tcpConnect → ∀ rest,
      replies streamingTunnel.trace = [5, 0] :: successReply streamingTunnel.parser :: rest →
      SuccessAfter rawEnv.config.overTlsEnable streamingTunnel.parser streamingTunnel.trace) ∧
    (∀ a r data m, streamingTunnel.stage = .handshake →
      replies (step rawEnv a streamingTunnel (.readDone .incoming r data)).trace =
        replies streamingTunnel.trace ++ [m] →
      (m = [5, 0] ↔ S5AuthMethod.none ∈
        (step rawEnv a streamingTunnel (.readDone .incoming r data)).parser.methods))) ∧
    HandshakeReplies rawEnv requestTunnel.parser (replies requestTunnel.trace) ∧
    (([5, 0] : List UInt8) = [5, 0] ↔ S5AuthMethod.none ∈
      (step rawEnv (answers greeting) initDoneCb
        (.readDone .incoming 3 [5, 1, 0])).parser.methods) :=
  ⟨incoming_replies streamingTunnel_reachable,
    (incoming_replies requestTunnel_reachable).1 (by decide),
    (@incoming_replies rawEnv _ .init).2.2.2 (answers greeting) 3 [5, 1, 0] [5, 0] rfl (by decide)⟩

/-- For a destination that fits its type, `init_pkg` is `atyp ‖ address ‖ port` with a
length byte before a host name and the port high byte first; it reads back as the request's
address type, address and port and is consumed whole; and the success reply
`do_socks5_reply_success` writes is `05 00 00` followed by it. -/
theorem initPkg_roundTrip {p : S5Ctx} (fits : AddressFits p) :
    (initialPackageCreate p).length = addressLength p ∧
      initialPackageCreate p = p.atyp.toByte ::
        ((if p.atyp = .host then [UInt8.ofNat p.daddr.length] else []) ++ p.daddr) ++
          portBytes p.dport ∧
      decodeAddress (initialPackageCreate p) = some (p.atyp, p.daddr, p.dport, []) ∧
      ∀ (env : ServerEnv) (t : TunnelCtx), Reachable env t → t.parser = p → t.initPkg.isSome →
        replies (doSocks5ReplySuccess t).trace =
          replies t.trace ++ [[5, 0, 0] ++ initialPackageCreate p] := by
  refine ⟨initialPackageCreate_length fits, by rw [initialPackageCreate, addressField_of_fits fits],
    decodeAddress_initialPackageCreate fits, fun env t reachable parser present => ?_⟩
  have initPkg := (Inv.of_reachable reachable).common.initPkg
  have stored : t.initPkg = some (initialPackageCreate p) := by
    split_ifs at initPkg <;> simp_all
  simp [doSocks5ReplySuccess, stored]

theorem loopbackRequest_roundTrip :
    (initialPackageCreate connectLoopback.parser).length = addressLength connectLoopback.parser ∧
      initialPackageCreate connectLoopback.parser = connectLoopback.parser.atyp.toByte ::
        ((if connectLoopback.parser.atyp = .host then
            [UInt8.ofNat connectLoopback.parser.daddr.length] else []) ++
          connectLoopback.parser.daddr) ++ portBytes connectLoopback.parser.dport ∧
      decodeAddress (initialPackageCreate connectLoopback.parser) =
        some (connectLoopback.parser.atyp, connectLoopback.parser.daddr,
          connectLoopback.parser.dport, []) ∧
      ∀ (env : ServerEnv) (t : TunnelCtx), Reachable env t → t.parser = connectLoopback.parser →
        t.initPkg.isSome → replies (doSocks5ReplySuccess t).trace =
          replies t.trace ++ [[5, 0, 0] ++ initialPackageCreate connectLoopback.parser] :=
  initPkg_roundTrip (by simp [AddressFits, connectLoopback])

/-- A host name with a zero byte, `61 00 62`, port 80. -/
def zeroByteHost : S5Ctx := ⟨[.none], .tcpConnect, .host, [97, 0, 98], 80⟩

/-- `strlen` stops at the zero byte: the record is two bytes short and reads back as the
host `61`. -/
theorem zeroByteHost_cut :
    (initialPackageCreate zeroByteHost).length = 5 ∧
      decodeAddress (initialPackageCreate zeroByteHost) = some (.host, [97], 80, []) := by
  decide

end Replies

end SsrClient
