import SsrClient.Flight
import SsrClient.History

/-!
# The run invariant

What a reachable state of the tunnel looks like, stage by stage: what it has in flight
(`Shape`), what the run has already written to the client and handed to the upstream, how
often the cipher was created and which operation came first, and that no socket-state
expectation was ever broken.  Each field is stated for the state as a whole; the next file
shows that every event keeps it.
-/

namespace SsrClient

open TunnelCtx

/-- The success reply `05 00 00 ‖ init_pkg` for a parsed CONNECT request. -/
def successReply (p : S5Ctx) : List UInt8 := [5, 0, 0] ++ initialPackageCreate p

/-- The upstream holds the encrypted `init_pkg`: on the raw path a write to it completed
with a non-negative result; over TLS the package was sent and a first reply decrypted. -/
def Delivered (overTls : Bool) (trace : List Obs) : Prop :=
  if overTls then
    (∃ buf, .call (.tunnelTlsSendData buf) ∈ trace) ∧
      ∃ buf d, d.ok = true ∧ .call (.tunnelCipherClientDecrypt .tls buf d) ∈ trace
  else ∃ result, 0 ≤ result ∧ .event (.writeDone .outgoing result) ∈ trace

/-- The second write to the client is the success reply, and the upstream held the
encrypted `init_pkg` before it was written. -/
def SuccessAfter (overTls : Bool) (p : S5Ctx) (trace : List Obs) : Prop :=
  ∃ pre post, trace = pre ++ .call (.socketWrite .incoming (successReply p)) :: post ∧
    replies pre = [[5, 0]] ∧ Delivered overTls pre

/-- What the run has done by the time it sits in its current stage: the writes to the
client, the number of cipher creations, whether the cipher has worked and the upstream
received anything, and the evidence the success reply needs. -/
def Progress (env : ServerEnv) (t : TunnelCtx) : Prop :=
  let live := t.terminated = false
  let rs := replies t.trace
  let k := creations t.trace
  let ops := cipherOps t.trace
  let up := payloads t.trace
  match t.stage with
  | .handshake => rs = [] ∧ k = 0 ∧ ops = [] ∧ up = []
  | .handshakeReplied => rs = [[5, 0]] ∧ k = 0 ∧ ops = [] ∧ up = []
  | .s5Request => rs = [[5, 0]] ∧ (live → k = 0) ∧ ops = [] ∧ up = []
  | .s5UdpAccoc =>
      (∃ buf, rs = [[5, 0], env.buildUdpAssocPackage env.config.udp env.config.listenHost
        env.config.listenPort buf]) ∧ t.parser.cmd = .udpAssoc ∧ k = 0 ∧ ops = [] ∧ up = []
  | .kill =>
      (rs = [[5, 255]] ∨ rs = [[5, 0], hostUnreachable] ∨ rs = [[5, 0], connectionNotAllowed] ∨
        rs = [[5, 0], connectionRefused]) ∧ ops = [] ∧ up = []
  | .resolveSsrServerHostDone => rs = [[5, 0]] ∧ k = 1 ∧ ops = [] ∧ up = []
  | .connectingSsrServer => rs = [[5, 0]] ∧ k = 1 ∧ (live → ops = []) ∧ up = []
  | .tlsConnecting =>
      rs = [[5, 0]] ∧ k = 1 ∧ (live → t.tls = .connecting → ops = []) ∧ up = []
  | .ssrAuthSent => rs = [[5, 0]] ∧ k = 1 ∧ ops ≠ [] ∧ up ≠ []
  | .ssrWaitingFeedback | .ssrReceiptOfFeedbackSent =>
      rs = [[5, 0]] ∧ k = 1 ∧ ops ≠ [] ∧ up ≠ [] ∧ Delivered false t.trace
  | .tlsFirstPackage =>
      rs = [[5, 0]] ∧ k = 1 ∧ ops ≠ [] ∧ up ≠ [] ∧ ∃ buf, .call (.tunnelTlsSendData buf) ∈ t.trace
  | .authComplitionDone | .tlsStreaming =>
      rs = [[5, 0], successReply t.parser] ∧ k = 1 ∧ ops ≠ [] ∧ up ≠ [] ∧
        SuccessAfter env.config.overTlsEnable t.parser t.trace
  | .streaming =>
      env.config.overTlsEnable = false ∧ (∃ rest, rs = [5, 0] :: successReply t.parser :: rest) ∧
        k = 1 ∧ ops ≠ [] ∧ up ≠ [] ∧ SuccessAfter false t.parser t.trace
  | .handshakeAuth => False

/-- What holds in every stage: no socket-state expectation broken, no connect but to an
accepted upstream address, the cipher created at most once and present with `init_pkg`
exactly after its creation until `tunnel_dying`, `init_pkg` encrypted first, the
encrypted `init_pkg` sent upstream first, and both released by `tunnel_dying` alone. -/
structure Common (env : ServerEnv) (t : TunnelCtx) : Prop where
  faults : socketFaults t.trace = 0
  upstream : ∀ addr ∈ connects t.trace, env.config.overTlsEnable = false ∧
    canAccess env.ndebug addr = true ∧ UpstreamAddress env t.trace addr
  created : creations t.trace ≤ 1
  cipher : t.cipher = if creations t.trace = 1 ∧ t.dead = false then some ⟨1452⟩ else none
  initPkg : t.initPkg =
    if creations t.trace = 1 ∧ t.dead = false then some (initialPackageCreate t.parser) else none
  firstOp : InitPkgFirst (initialPackageCreate t.parser) (cipherOps t.trace)
  firstPayload : PayloadFirst (cipherOps t.trace) (payloads t.trace)
  released : releases t.trace = if t.dead then
    (if creations t.trace = 1 then [.tunnelCipherRelease] else []) ++ [.bufferRelease] else []

/-- The run invariant. -/
structure Inv (env : ServerEnv) (t : TunnelCtx) : Prop where
  shape : t.terminated = false → Shape env.config.overTlsEnable t
  alive : t.terminated = false → t.dead = false
  progress : Progress env t
  common : Common env t

theorem Delivered.append {overTls : Bool} {l : List Obs} (delivered : Delivered overTls l)
    (more : List Obs) : Delivered overTls (l ++ more) := by
  cases overTls with
  | false =>
      obtain ⟨result, nonneg, mem⟩ := delivered
      exact ⟨result, nonneg, List.mem_append_left _ mem⟩
  | true =>
      obtain ⟨⟨buf, sent⟩, buf', d, ok, mem⟩ := delivered
      exact ⟨⟨buf, List.mem_append_left _ sent⟩, buf', d, ok, List.mem_append_left _ mem⟩

theorem SuccessAfter.append {overTls : Bool} {p : S5Ctx} {l : List Obs}
    (after : SuccessAfter overTls p l) (more : List Obs) : SuccessAfter overTls p (l ++ more) := by
  obtain ⟨pre, post, rfl, rs, delivered⟩ := after
  exact ⟨pre, post ++ more, by simp, rs, delivered⟩

section Frame

variable {env : ServerEnv} {t u : TunnelCtx}

/-- An entry of the history that `Common` does not see: not a payload, a cipher operation,
a creation of the cipher, a broken socket expectation, a connect or a release. -/
def Obs.Inert (o : Obs) : Prop :=
  o.payload = none ∧ o.cipherOp = none ∧ o.createsCipher = false ∧ o.socketFault = false ∧
    o.connect = none ∧ o.release = none

/-- An entry that none of the projections `Progress` and `Common` read sees. -/
def Obs.Silent (o : Obs) : Prop := o.reply = none ∧ o.Inert

@[simp] theorem Obs.silent_event (e : Event) : (Obs.event e).Silent := by
  simp [Obs.Silent, Obs.Inert]

/-- What a stretch of history adds to the projections `Progress` reads: no reply, payload,
cipher operation or creation. -/
def Unread (more : List Obs) : Prop :=
  replies more = [] ∧ payloads more = [] ∧ cipherOps more = [] ∧ creations more = 0

/-- `Progress` reads only the stage, the teardown flag, the TLS phase, the parser and the
history, and a stretch that adds nothing to the projections it reads keeps it. -/
theorem Progress.extend (progress : Progress env t)
    (frame : t.trace <+: u.trace ∧ Unread (u.trace.drop t.trace.length) ∧ u.stage = t.stage ∧
      u.parser = t.parser ∧ u.terminated = t.terminated ∧ u.tls = t.tls) : Progress env u := by
  obtain ⟨⟨more, trace⟩, unread, stage, parser, terminated, tls⟩ := frame
  rw [← trace, List.drop_left] at unread
  obtain ⟨r, p, c, k⟩ := unread
  simp only [Progress, ← trace, stage, parser, terminated, tls, replies_append, payloads_append,
    cipherOps_append, creations_append, r, p, c, k, List.append_nil, add_zero] at progress ⊢
  clear trace
  split at progress <;> simp_all [SuccessAfter.append, Delivered.append, exists_or]

/-- A silent entry adds nothing to the history's projections. -/
theorem Progress.frame (progress : Progress env t) (o : Obs) (trace : u.trace = t.trace ++ [o])
    (silent : o.Silent) (stage : u.stage = t.stage) (parser : u.parser = t.parser)
    (terminated : u.terminated = t.terminated) (tls : u.tls = t.tls) : Progress env u := by
  obtain ⟨r, p, c, k, -⟩ := silent
  refine progress.extend ⟨⟨[o], trace.symm⟩, ?_, stage, parser, terminated, tls⟩
  simp only [trace, List.drop_left, Unread, replies_cons, payloads_cons, cipherOps_cons,
    creations_cons, r, p, c, k, Option.map_none', Option.getD_none, Bool.false_eq_true, ite_false,
    replies_nil, payloads_nil, cipherOps_nil, creations_nil, and_self]

/-- What a stretch of history adds to the projections `Common` reads: `k` creations, the
cipher operations `ops`, the payloads `up`, and no broken socket expectation, connect or
release. -/
def Adds (more : List Obs) (k : Nat) (ops : List Call) (up : List (List UInt8)) : Prop :=
  creations more = k ∧ cipherOps more = ops ∧ payloads more = up ∧ socketFaults more = 0 ∧
    connects more = [] ∧ releases more = []

/-- A stretch that adds no creation, broken expectation, connect or release, and no
encryption of `init_pkg`: what may follow the first payload. -/
def AddsLater (more : List Obs) : Prop :=
  creations more = 0 ∧ socketFaults more = 0 ∧ connects more = [] ∧ releases more = [] ∧
    ∀ op ∈ cipherOps more, op.isInitPkgEncrypt = false

/-- A stretch that adds no connect keeps every connect of `Common` to a known upstream
address. -/
theorem Common.upstream_grows {more : List Obs} (common : Common env t)
    (grows : t.trace ++ more = u.trace) (none : connects more = []) :
    ∀ addr ∈ connects u.trace, env.config.overTlsEnable = false ∧
      canAccess env.ndebug addr = true ∧ UpstreamAddress env u.trace addr := by
  intro addr member
  rw [← grows, connects_append, none, List.append_nil] at member
  obtain ⟨raw, accepted, known⟩ := common.upstream addr member
  exact ⟨raw, accepted, grows ▸ known.append more⟩

/-- `Common` reads only the parser, the cipher fields, `dead` and the history, and a stretch
that adds none of what it reads keeps it; the parser may change while there is no cipher. -/
theorem Common.extend (common : Common env t)
    (frame : t.trace <+: u.trace ∧ Adds (u.trace.drop t.trace.length) 0 [] [] ∧
      (u.parser = t.parser ∨ creations t.trace = 0 ∧ cipherOps t.trace = []) ∧
      u.cipher = t.cipher ∧ u.initPkg = t.initPkg ∧ u.dead = t.dead) : Common env u := by
  obtain ⟨⟨more, trace⟩, adds, parser, cipher, initPkg, dead⟩ := frame
  rw [← trace, List.drop_left] at adds
  obtain ⟨k, c, p, f, n, r⟩ := adds
  have upstream := common.upstream_grows trace n
  obtain ⟨faults, -, created, cipher', initPkg', firstOp, firstPayload, released⟩ := common
  refine ⟨by simp [← trace, faults, f], upstream, by simp [← trace, k, created],
    by simp [← trace, k, cipher, cipher', dead], ?_, ?_,
    by simpa [← trace, c, p] using firstPayload, by simp [← trace, k, r, released, dead]⟩
  · rcases parser with parser | ⟨none, -⟩
    · simp [← trace, k, parser, initPkg, initPkg', dead]
    · simp [← trace, k, initPkg, initPkg', none]
  · rcases parser with parser | ⟨-, unused⟩
    · simpa [← trace, c, parser] using firstOp
    · simp [← trace, c, unused]

/-- Once the cipher has been used and the upstream has received its first payload, a stretch
that creates nothing and encrypts `init_pkg` no more keeps `Common`. -/
theorem Common.extendOps (common : Common env t) (used : cipherOps t.trace ≠ [])
    (sent : payloads t.trace ≠ [])
    (frame : t.trace <+: u.trace ∧ AddsLater (u.trace.drop t.trace.length) ∧
      u.parser = t.parser ∧ u.cipher = t.cipher ∧ u.initPkg = t.initPkg ∧ u.dead = t.dead) :
    Common env u := by
  obtain ⟨⟨more, trace⟩, later, parser, cipher, initPkg, dead⟩ := frame
  rw [← trace, List.drop_left] at later
  obtain ⟨k, f, n, r, e⟩ := later
  have upstream := common.upstream_grows trace n
  obtain ⟨faults, -, created, cipher', initPkg', firstOp, firstPayload, released⟩ := common
  exact ⟨by simp [← trace, faults, f], upstream, by simp [← trace, k, created],
    by simp [← trace, k, cipher, cipher', dead],
    by simp [← trace, k, parser, initPkg, initPkg', dead],
    by simpa [← trace, parser] using firstOp.append used e,
    by simpa [← trace] using firstPayload.append sent, by simp [← trace, k, r, released, dead]⟩

/-- The CONNECT branch of `do_parse_s5_request` creates the cipher and `init_pkg` together,
once, before any cipher operation. -/
theorem Common.create (common : Common env t) (fresh : creations t.trace = 0)
    (unused : cipherOps t.trace = []) (alive : t.dead = false)
    (frame : t.trace <+: u.trace ∧ Adds (u.trace.drop t.trace.length) 1 [] [] ∧
      u.dead = false ∧ u.cipher = some ⟨1452⟩ ∧
      u.initPkg = some (initialPackageCreate u.parser)) : Common env u := by
  obtain ⟨⟨more, trace⟩, adds, dead, cipher, initPkg⟩ := frame
  rw [← trace, List.drop_left] at adds
  obtain ⟨k, c, p, f, n, r⟩ := adds
  have upstream := common.upstream_grows trace n
  obtain ⟨faults, -, -, -, -, -, firstPayload, released⟩ := common
  exact ⟨by simp [← trace, faults, f], upstream, by simp [← trace, fresh, k],
    by simp [← trace, fresh, k, dead, cipher], by simp [← trace, fresh, k, dead, initPkg],
    by simp [← trace, unused, c], by simpa [← trace, p, c] using firstPayload,
    by simp [← trace, r, released, alive, dead]⟩

/-- The cipher's first operation encrypts a clone of `init_pkg`; what it gives back, if
anything, is the first payload. -/
theorem Common.encryptInitPkg (common : Common env t) (result : Option (List UInt8))
    (unused : cipherOps t.trace = []) (unsent : payloads t.trace = [])
    (frame : t.trace <+: u.trace ∧
      (Adds (u.trace.drop t.trace.length) 0
          [.tunnelCipherClientEncrypt .initPkg (initialPackageCreate t.parser) result] [] ∨
        ∃ buf, result = some buf ∧ Adds (u.trace.drop t.trace.length) 0
          [.tunnelCipherClientEncrypt .initPkg (initialPackageCreate t.parser) result] [buf]) ∧
      u.parser = t.parser ∧ u.cipher = t.cipher ∧ u.initPkg = t.initPkg ∧ u.dead = t.dead) :
    Common env u := by
  obtain ⟨⟨more, trace⟩, adds, parser, cipher, initPkg, dead⟩ := frame
  rw [← trace, List.drop_left] at adds
  have ⟨k, c, f, n, r⟩ : creations more = 0 ∧ cipherOps more = [.tunnelCipherClientEncrypt
      .initPkg (initialPackageCreate t.parser) result] ∧ socketFaults more = 0 ∧
      connects more = [] ∧ releases more = [] := by
    rcases adds with ⟨k, c, -, f, n, r⟩ | ⟨-, -, k, c, -, f, n, r⟩ <;> exact ⟨k, c, f, n, r⟩
  have upstream := common.upstream_grows trace n
  obtain ⟨faults, -, created', cipher', initPkg', -, -, released⟩ := common
  refine ⟨by simp [← trace, faults, f], upstream, by simp [← trace, k, created'],
    by simp [← trace, k, cipher, cipher', dead],
    by simp [← trace, k, parser, initPkg, initPkg', dead],
    by simp [← trace, unused, c, parser, InitPkgFirst], ?_, by simp [← trace, k, r, released, dead]⟩
  rcases adds with ⟨-, -, p, -⟩ | ⟨buf, rfl, -, -, p, -⟩
  · simp [← trace, unsent, p]
  · simp [← trace, unsent, unused, c, p, PayloadFirst]

/-- A `socket_connect` on the raw path to an upstream address `can_access` accepts keeps
`Common`. -/
theorem Common.socketConnect (common : Common env t) (raw : env.config.overTlsEnable = false)
    (accepted : canAccess env.ndebug t.outgoing.addr = true)
    (upstream : UpstreamAddress env t.trace t.outgoing.addr) (err : Int) :
    Common env (t.socketConnect err) := by
  obtain ⟨faults, known, created, cipher, initPkg, firstOp, firstPayload, released⟩ := common
  refine ⟨by simp [faults], fun addr member => ?_, by simp [created], by simp [cipher],
    by simp [initPkg], by simpa using firstOp, by simpa using firstPayload, by simp [released]⟩
  simp only [TunnelCtx.socketConnect, call, record, connects_append, List.mem_append] at member
  rcases member with old | new
  · obtain ⟨raw', accepted', upstream'⟩ := known addr old
    exact ⟨raw', accepted', upstream'.append _⟩
  · obtain rfl : addr = t.outgoing.addr := by simpa using new
    exact ⟨raw, accepted, upstream.append _⟩

/-- `Common` reads only the parser, the cipher fields, `dead` and the history. -/
theorem Common.frame (common : Common env t) (o : Obs) (trace : u.trace = t.trace ++ [o])
    (silent : o.Silent)
    (parser : u.parser = t.parser) (cipher : u.cipher = t.cipher) (initPkg : u.initPkg = t.initPkg)
    (dead : u.dead = t.dead) : Common env u := by
  obtain ⟨-, p, c, k, f, n, r⟩ := silent
  refine common.extend ⟨⟨[o], trace.symm⟩, ?_, .inl parser, cipher, initPkg, dead⟩
  simp only [trace, List.drop_left, Adds, creations_cons, cipherOps_cons, payloads_cons,
    socketFaults_cons, connects_cons, releases_cons, p, c, k, f, n, r, Option.map_none',
    Option.getD_none, Bool.false_eq_true, ite_false, creations_nil, socketFaults_nil, cipherOps_nil,
    payloads_nil, connects_nil, releases_nil, and_self]

/-- Recording a silent entry keeps the invariant. -/
theorem Inv.record {o : Obs} (inv : Inv env t) (silent : o.Silent) : Inv env (t.record o) where
  shape live := inv.shape live
  alive live := inv.alive live
  progress := inv.progress.frame o rfl silent rfl rfl rfl rfl
  common := inv.common.frame o rfl silent rfl rfl rfl rfl

/-- `Progress` only weakens when the tunnel is torn down. -/
theorem Progress.tunnelShutdown (progress : Progress env t) : Progress env t.tunnelShutdown := by
  simp only [Progress, TunnelCtx.tunnelShutdown, TunnelCtx.call, TunnelCtx.record] at progress ⊢
  split at progress <;> simp_all [SuccessAfter.append, Delivered.append, exists_or]

/-- `tunnel_shutdown` keeps the invariant of any state whose history it describes. -/
theorem Inv.tunnelShutdown (progress : Progress env t) (common : Common env t) :
    Inv env t.tunnelShutdown where
  shape live := by simp at live
  alive live := by simp at live
  progress := progress.tunnelShutdown
  common := common.frame _ rfl (by simp [Obs.Silent, Obs.Inert]) rfl rfl rfl rfl

end Frame

theorem Inv.init (env : ServerEnv) : Inv env initDoneCb where
  shape _ := by simp [Shape, initDoneCb, TunnelCtx.flight, Flight.quiet, SocketCtx.idle]
  alive _ := rfl
  progress := by simp [Progress, initDoneCb]
  common := by
    constructor <;> simp [initDoneCb, InitPkgFirst, PayloadFirst]

end SsrClient
