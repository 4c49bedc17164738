import SsrClient.Handlers

/-!
# Runs of a tunnel

A run starts where `tunnel_initialize` and `init_done_cb` leave a tunnel: stage
`handshake`, a read armed on `incoming`, no cipher.  Each step delivers one event the
event loop may deliver in that state: the completion of an armed read or write, of an
outstanding connect or lookup, a timeout, a TLS callback, or, once teardown has run,
`tunnel_dying`.  The shim updates the socket first, then the callback `client.c`
registered for the event runs.
-/

namespace SsrClient

open TunnelCtx

/-- `init_done_cb` after `tunnel_initialize`: a fresh context in stage `handshake` with a
read armed on `incoming`. -/
def initDoneCb : TunnelCtx where
  incoming := { SocketCtx.idle with rdstate := .busy }
  outgoing := SocketCtx.idle
  cipher := none
  initPkg := none
  parser := S5Ctx.init
  stage := .handshake
  connecting := false
  resolving := false
  tls := .idle
  awaitingReply := false
  terminated := false
  dead := false
  trace := []

/-- Modelled from the spec: what the shim or the TLS transport records before it calls
back: a read leaves its bytes and result and state `done`, a write its result and state
`done`, a connect or lookup its result (and a lookup its address); a frame from the
upstream answers what was sent over TLS. -/
def deliver (t : TunnelCtx) : Event → TunnelCtx
  | .readDone side result data =>
      t.setSocket side { t.socket side with rdstate := .done, result, buf := data }
  | .writeDone side result => t.setSocket side { t.socket side with wrstate := .done, result }
  | .outgoingConnected result =>
      { t with outgoing := { t.outgoing with result }, connecting := false }
  | .getaddrinfoDone result addr =>
      { t with
        outgoing := { t.outgoing with result, addr := if 0 ≤ result then addr else t.outgoing.addr }
        resolving := false }
  | .tlsConnectionEstablished => { t with tls := .connected }
  | .tlsDataReceived _ => { t with awaitingReply := false }
  | _ => t

@[simp] theorem deliver_stage (t : TunnelCtx) (e : Event) : (deliver t e).stage = t.stage := by
  cases e with
  | readDone side => cases side <;> rfl
  | writeDone side => cases side <;> rfl
  | _ => rfl

/-- The callbacks `init_done_cb` registers: `tunnel_read_done`, `tunnel_write_done`,
`tunnel_outgoing_connected_done` and `tunnel_getaddrinfo_done` all enter `do_next`;
`tunnel_timeout_expire_done` does nothing; `client_shutdown` shuts every tunnel of the set
down through `_do_shutdown_tunnel`. -/
def dispatch (env : ServerEnv) (a : Answers) (t : TunnelCtx) : Event → TunnelCtx
  | .readDone side _ _ => doNext env a side t
  | .writeDone side _ => doNext env a side t
  | .outgoingConnected _ => doNext env a .outgoing t
  | .getaddrinfoDone _ _ => doNext env a .outgoing t
  | .timeoutExpire _ => t
  | .tlsConnectionEstablished => tunnelTlsOnConnectionEstablished a t
  | .tlsDataReceived data => tunnelTlsOnDataReceived a data t
  | .tlsShuttingDown => t.tunnelShutdown
  | .clientShutdown => t.tunnelShutdown
  | .dying => tunnelDying t

/-- One event of a run: recorded, delivered, and handled. -/
def step (env : ServerEnv) (a : Answers) (t : TunnelCtx) (e : Event) : TunnelCtx :=
  dispatch env a (deliver (t.record (.event e)) e) e

/-- Modelled from the spec: the events the event loop may deliver.  A completion comes
only for an operation in flight, a read's bytes number its result, TLS callbacks follow the
transport's phase, and after teardown only `tunnel_dying` is left. -/
def Enabled (t : TunnelCtx) : Event → Prop
  | .readDone side result data =>
      t.terminated = false ∧ (t.socket side).rdstate = .busy ∧
        (0 ≤ result → data.length = result.toNat)
  | .writeDone side _ => t.terminated = false ∧ (t.socket side).wrstate = .busy
  | .outgoingConnected _ => t.terminated = false ∧ t.connecting = true
  | .getaddrinfoDone _ _ => t.terminated = false ∧ t.resolving = true
  | .timeoutExpire _ => t.terminated = false
  | .tlsConnectionEstablished => t.terminated = false ∧ t.tls = .connecting
  | .tlsDataReceived _ => t.terminated = false ∧ t.tls = .connected
  | .tlsShuttingDown => t.terminated = false ∧ t.tls ≠ .idle
  | .clientShutdown => t.terminated = false
  | .dying => t.terminated = true ∧ t.dead = false

instance (t : TunnelCtx) : (e : Event) → Decidable (Enabled t e)
  | .readDone .. => inferInstanceAs (Decidable (_ ∧ _ ∧ _))
  | .writeDone .. => inferInstanceAs (Decidable (_ ∧ _))
  | .outgoingConnected _ => inferInstanceAs (Decidable (_ ∧ _))
  | .getaddrinfoDone .. => inferInstanceAs (Decidable (_ ∧ _))
  | .timeoutExpire _ => inferInstanceAs (Decidable (_ = _))
  | .tlsConnectionEstablished => inferInstanceAs (Decidable (_ ∧ _))
  | .tlsDataReceived _ => inferInstanceAs (Decidable (_ ∧ _))
  | .tlsShuttingDown => inferInstanceAs (Decidable (_ ∧ _))
  | .clientShutdown => inferInstanceAs (Decidable (_ = _))
  | .dying => inferInstanceAs (Decidable (_ ∧ _))

/-- The states a tunnel reaches from `init_done_cb`, whatever the events and the
collaborators' answers. -/
inductive Reachable (env : ServerEnv) : TunnelCtx → Prop
  | init : Reachable env initDoneCb
  | step {t : TunnelCtx} (a : Answers) (e : Event) :
      Reachable env t → Enabled t e → Reachable env (step env a t e)

/-- A run: the state after a list of answered events, each enabled when it comes. -/
def run (env : ServerEnv) : TunnelCtx → List (Answers × Event) → Option TunnelCtx
  | t, [] => some t
  | t, (a, e) :: rest => if Enabled t e then run env (step env a t e) rest else none

theorem reachable_of_run {env : ServerEnv} {t t' : TunnelCtx} {events : List (Answers × Event)}
    (start : Reachable env t) (ran : run env t events = some t') : Reachable env t' := by
  induction events generalizing t with
  | nil =>
      simp only [run, Option.some.injEq] at ran
      exact ran ▸ start
  | cons head rest ih =>
      obtain ⟨a, e⟩ := head
      by_cases enabled : Enabled t e
      · simp only [run, enabled, ite_true] at ran
        exact ih (start.step a e enabled) ran
      · simp [run, enabled] at ran

end SsrClient
