import Mathlib.Data.List.Nodup
import Mathlib.Data.List.Perm.Basic
import SsrClient.Safety

/-!
# The set of live tunnels and `client_shutdown`

`init_done_cb` adds every tunnel it sets up to the process-wide `tunnel_set`,
`tunnel_dying` takes it out again, and `client_shutdown` walks the set and shuts each
tunnel in it down.  This file puts the tunnels of one server side by side, each running
its own stage machine, and lets the event loop interleave accepts, completions on any
tunnel and `client_shutdown` in any order.  Over every such run the set holds exactly the
tunnels `tunnel_dying` has not freed, each once, and every tunnel stays in a state its own
stage machine reaches.  A `client_shutdown` tears every tunnel of the set down, but the
set empties only once each of them has run `tunnel_dying`, in whatever order; then every
tunnel the server accepted has released its cipher and its `init_pkg`, and nothing leaks.
-/

namespace SsrClient

open TunnelCtx

section Freeing

variable {env : ServerEnv} {a : Answers} {u : TunnelCtx}

@[simp] theorem setSocket_dead (t : TunnelCtx) (side : Side) (s : SocketCtx) :
    (t.setSocket side s).dead = t.dead := by
  cases side <;> rfl

theorem doSsrReceiptForFeedback_dead : (doSsrReceiptForFeedback a u).1.dead = u.dead := by
  unfold doSsrReceiptForFeedback
  dsimp only
  repeat' split
  all_goals simp

/-- No handler of `do_next` frees the tunnel. -/
theorem doNext_dead (side : Side) : (doNext env a side u).dead = u.dead := by
  unfold doNext
  split
  case h_9 =>
    have dead := @doSsrReceiptForFeedback_dead a (u.latchRead .outgoing)
    split <;> rename_i receipt <;> rw [receipt] at dead <;> simpa [doSocks5ReplySuccess] using dead
  all_goals
    try dsimp only [doHandshake, doHandshakeAuth, doWaitS5Request, doParseS5Request,
      doResolveSsrServerHostAftercare, doConnectSsrServerDone, doSsrAuthSent,
      doSocks5ReplySuccess, tunnelTlsDoLaunchStreaming, doLaunchStreaming,
      tunnelTlsClientIncomingStreaming, tunnelTraditionalStreaming, tunnelExtractData,
      doConnectSsrServer]
    repeat' split
  -- every operation of the shim rebuilds the context with `dead` copied over
  all_goals dsimp only [setSocket_incoming, setSocket_outgoing, socket_incoming, socket_outgoing,
    setRdstate, setWrstate, record, call, fault, callIf, faultIf, check, socketRead, socketWrite,
    socketConnect, socketGetaddrinfo, tunnelShutdown, tlsClientLaunch, tlsClientShutdown,
    tunnelTlsSendData, assertStopped, assertIdle, latchRead, latchWrite]
  all_goals simp only [setSocket_dead]

/-- Only `tunnel_dying` frees a tunnel: every other event leaves `dead` as it was. -/
theorem step_dead {e : Event} (notDying : e ≠ .dying) : (step env a u e).dead = u.dead := by
  cases e
  case dying => exact absurd rfl notDying
  case tlsConnectionEstablished =>
    simp only [step, dispatch, deliver, tunnelTlsOnConnectionEstablished]
    split <;> simp
  case tlsDataReceived =>
    simp only [step, dispatch, deliver, tunnelTlsOnDataReceived]
    split_ifs <;> simp [doSocks5ReplySuccess]
  all_goals simp [step, dispatch, deliver, doNext_dead]

end Freeing

/-- The part of `struct server_env_t` the tunnels share: every tunnel `init_done_cb` has set
up, in the order they were accepted, and `tunnel_set`, the indices of those `tunnel_dying`
has not yet taken out. -/
@[ext] structure Server where
  tunnels : List TunnelCtx
  tunnelSet : List Nat
  deriving DecidableEq, Repr

/-- What the event loop does next: accept a client, hand one tunnel an event, or call
`client_shutdown`. -/
inductive ServerEvent
  | accept
  | tunnel (i : Nat) (a : Answers) (e : Event)
  | clientShutdown

/-- `_do_shutdown_tunnel`: `tunnel_shutdown` on one tunnel of the set.  Modelled from the
spec, as `tunnel_shutdown` is in `tunnel.c`: shutdown is idempotent, so a tunnel whose
teardown has begun is left as it is. -/
def doShutdownTunnel (t : TunnelCtx) : TunnelCtx :=
  if t.terminated then t else (t.record (.event .clientShutdown)).tunnelShutdown

/-- `_do_shutdown_tunnel` on the tunnel with index `i`. -/
def Server.shutdownTunnel (s : Server) (i : Nat) : Server :=
  { s with tunnels := s.tunnels.modify doShutdownTunnel i }

/-- `client_shutdown`: `cstl_set_container_traverse` visits `tunnel_set` and shuts every
tunnel in it down. -/
def clientShutdown (s : Server) : Server := s.tunnelSet.foldl Server.shutdownTunnel s

/-- One event of the server.  `init_done_cb` adds the new tunnel to the set
(`cstl_set_container_add`), an event runs the tunnel's own stage machine, and
`tunnel_dying` also takes the tunnel out of the set (`cstl_set_container_remove`). -/
def Server.step (env : ServerEnv) (s : Server) : ServerEvent → Server
  | .accept => ⟨s.tunnels ++ [initDoneCb], s.tunnelSet ++ [s.tunnels.length]⟩
  | .tunnel i a e =>
      ⟨s.tunnels.modify (SsrClient.step env a · e) i,
        if e = .dying then s.tunnelSet.erase i else s.tunnelSet⟩
  | .clientShutdown => clientShutdown s

/-- Modelled from the spec: an accept or a `client_shutdown` may come at any time, and an
event may come to an existing tunnel whose own stage machine allows it; `client_shutdown`
reaches a tunnel only through the set. -/
def Server.Enabled (s : Server) : ServerEvent → Prop
  | .accept => True
  | .tunnel i _ e =>
      e ≠ .clientShutdown ∧ ∃ h : i < s.tunnels.length, SsrClient.Enabled s.tunnels[i] e
  | .clientShutdown => True

instance (s : Server) : (ev : ServerEvent) → Decidable (s.Enabled ev)
  | .accept => inferInstanceAs (Decidable True)
  | .tunnel .. => inferInstanceAs (Decidable (_ ∧ ∃ _ : _ < _, _))
  | .clientShutdown => inferInstanceAs (Decidable True)

/-- The servers the event loop reaches from one with no tunnel. -/
inductive ServerReachable (env : ServerEnv) : Server → Prop
  | init : ServerReachable env ⟨[], []⟩
  | step {s : Server} (ev : ServerEvent) :
      ServerReachable env s → s.Enabled ev → ServerReachable env (s.step env ev)

/-- A run of the server: the state after a list of events, each enabled when it comes. -/
def Server.run (env : ServerEnv) : Server → List ServerEvent → Option Server
  | s, [] => some s
  | s, ev :: rest => if s.Enabled ev then Server.run env (s.step env ev) rest else none

section Broadcast

@[simp] theorem doShutdownTunnel_terminated (t : TunnelCtx) :
    (doShutdownTunnel t).terminated = true := by
  unfold doShutdownTunnel
  split_ifs with down <;> simp [down]

@[simp] theorem doShutdownTunnel_dead (t : TunnelCtx) : (doShutdownTunnel t).dead = t.dead := by
  unfold doShutdownTunnel
  split_ifs <;> rfl

theorem doShutdownTunnel_idem (t : TunnelCtx) :
    doShutdownTunnel (doShutdownTunnel t) = doShutdownTunnel t := by
  rw [doShutdownTunnel, if_pos (doShutdownTunnel_terminated t)]

/-- `tunnel_shutdown` asks no collaborator anything: on a live tunnel it is the step of the
`clientShutdown` event, whatever the answers. -/
theorem doShutdownTunnel_eq_step {env : ServerEnv} {t : TunnelCtx} (a : Answers)
    (live : t.terminated = false) : doShutdownTunnel t = step env a t .clientShutdown := by
  simp [doShutdownTunnel, live, step, dispatch, deliver]

theorem Reachable.doShutdownTunnel {env : ServerEnv} {t : TunnelCtx} (reachable : Reachable env t) :
    Reachable env (doShutdownTunnel t) := by
  cases live : t.terminated
  · let a : Answers := ⟨⟨⟨[], .tcpConnect, .ipv4, [], 0⟩, .ok, 0⟩, none, ⟨true, [], none⟩, false, 0⟩
    rw [doShutdownTunnel_eq_step a live]
    exact reachable.step a .clientShutdown live
  · simpa [SsrClient.doShutdownTunnel, live] using reachable

@[simp] theorem foldl_shutdownTunnel_tunnelSet (l : List Nat) (s : Server) :
    (l.foldl Server.shutdownTunnel s).tunnelSet = s.tunnelSet := by
  induction l generalizing s with
  | nil => rfl
  | cons i rest ih => exact ih _

@[simp] theorem foldl_shutdownTunnel_length (l : List Nat) (s : Server) :
    (l.foldl Server.shutdownTunnel s).tunnels.length = s.tunnels.length := by
  induction l generalizing s with
  | nil => rfl
  | cons i rest ih => simp [ih, Server.shutdownTunnel]

/-- Shutting the tunnels of a list down one after another shuts down exactly the tunnels
of the list, each as if once, and leaves every other tunnel as it was. -/
theorem foldl_shutdownTunnel_tunnels (l : List Nat) (s : Server) (j : Nat) :
    (l.foldl Server.shutdownTunnel s).tunnels[j]? =
      if j ∈ l then s.tunnels[j]?.map doShutdownTunnel else s.tunnels[j]? := by
  induction l generalizing s with
  | nil => simp
  | cons i rest ih =>
      rw [List.foldl_cons, ih]
      simp only [Server.shutdownTunnel, List.getElem?_modify, List.mem_cons]
      by_cases here : i = j
      · subst here
        cases s.tunnels[i]? <;> simp [doShutdownTunnel_idem]
      · cases s.tunnels[j]? <;> simp [here, Ne.symm here]

/-- `client_shutdown` leaves the set as it was, shuts down every tunnel of the set, once
each, and no other tunnel. -/
theorem clientShutdown_spec (s : Server) :
    (clientShutdown s).tunnelSet = s.tunnelSet ∧
      ∀ i, (clientShutdown s).tunnels[i]? =
        if i ∈ s.tunnelSet then s.tunnels[i]?.map doShutdownTunnel else s.tunnels[i]? :=
  ⟨foldl_shutdownTunnel_tunnelSet _ _, foldl_shutdownTunnel_tunnels _ _⟩

end Broadcast

/-- What every reachable server satisfies: each tunnel is in a state its own stage machine
reaches, and the set holds, once each, exactly the tunnels `tunnel_dying` has not freed. -/
structure ServerInv (env : ServerEnv) (s : Server) : Prop where
  reachable : ∀ t ∈ s.tunnels, Reachable env t
  nodup : s.tunnelSet.Nodup
  registered : ∀ i, i ∈ s.tunnelSet ↔ ∃ t, s.tunnels[i]? = some t ∧ t.dead = false

section Invariant

variable {env : ServerEnv} {s : Server}

theorem ServerInv.init : ServerInv env ⟨[], []⟩ where
  reachable := by simp
  nodup := List.nodup_nil
  registered := by simp

/-- `init_done_cb` adds a tunnel that is not in the set yet. -/
theorem ServerInv.accept (inv : ServerInv env s) : ServerInv env (s.step env .accept) := by
  have fresh : s.tunnels.length ∉ s.tunnelSet := by
    simp [inv.registered, List.getElem?_eq_none]
  refine ⟨fun t member => ?_, ?_, fun i => ?_⟩
  · rcases List.mem_append.mp member with old | new
    · exact inv.reachable t old
    · simp only [List.mem_singleton] at new
      exact new ▸ .init
  · simpa [Server.step, List.nodup_append, inv.nodup] using fresh
  · simp only [Server.step, List.mem_append, List.mem_singleton, inv.registered]
    rcases Nat.lt_trichotomy i s.tunnels.length with lt | rfl | gt
    · simp [List.getElem?_append_left lt, lt.ne]
    · simp [initDoneCb]
    · obtain ⟨k, past⟩ : ∃ k, i - s.tunnels.length = k + 1 := ⟨i - s.tunnels.length - 1, by omega⟩
      simp [List.getElem?_append_right gt.le, List.getElem?_eq_none gt.le, gt.ne', past]

/-- An event on one tunnel runs its stage machine; `tunnel_dying` frees it and takes it out
of the set. -/
theorem ServerInv.tunnel {i : Nat} {a : Answers} {e : Event} (inv : ServerInv env s)
    (enabled : s.Enabled (.tunnel i a e)) : ServerInv env (s.step env (.tunnel i a e)) := by
  obtain ⟨-, bound, allowed⟩ := enabled
  have current : s.tunnels[i]? = some s.tunnels[i] := List.getElem?_eq_getElem bound
  refine ⟨fun t member => ?_, ?_, fun j => ?_⟩
  · obtain ⟨j, found⟩ := List.mem_iff_getElem?.mp member
    simp only [Server.step, List.getElem?_modify] at found
    by_cases here : i = j
    · subst here
      simp only [current, if_pos, Option.map_eq_map, Option.map_some', Option.some.injEq] at found
      exact found ▸ (inv.reachable _ (List.getElem_mem bound)).step a e allowed
    · simp only [here, if_false, Option.map_eq_map, Option.map_id'] at found
      exact inv.reachable t (List.mem_iff_getElem?.mpr ⟨j, found⟩)
  · simp only [Server.step]
    split_ifs
    · exact inv.nodup.erase i
    · exact inv.nodup
  · simp only [Server.step, List.getElem?_modify]
    by_cases here : i = j
    · subst here
      by_cases dying : e = .dying
      · subst dying
        simp [current, inv.nodup.mem_erase_iff, step, dispatch, tunnelDying]
      · simp [current, dying, inv.registered, step_dead dying]
    · have other : j ≠ i := Ne.symm here
      split_ifs <;> simp [inv.registered, here, List.mem_erase_of_ne other]

/-- `client_shutdown` keeps the set and shuts its tunnels down, each through a step its own
stage machine allows. -/
theorem ServerInv.clientShutdown (inv : ServerInv env s) :
    ServerInv env (s.step env .clientShutdown) := by
  obtain ⟨set, tunnels⟩ := clientShutdown_spec s
  refine ⟨fun t member => ?_, by simpa [Server.step, set] using inv.nodup, fun i => ?_⟩
  · obtain ⟨j, found⟩ := List.mem_iff_getElem?.mp member
    simp only [Server.step, tunnels] at found
    split_ifs at found
    · obtain ⟨t', old, rfl⟩ := Option.map_eq_some'.mp found
      exact (inv.reachable t' (List.mem_iff_getElem?.mpr ⟨j, old⟩)).doShutdownTunnel
    · exact inv.reachable t (List.mem_iff_getElem?.mpr ⟨j, found⟩)
  · simp only [Server.step, set, tunnels, inv.registered]
    split_ifs <;> cases s.tunnels[i]? <;> simp

theorem ServerInv.step {ev : ServerEvent} (inv : ServerInv env s) (enabled : s.Enabled ev) :
    ServerInv env (s.step env ev) := by
  cases ev with
  | accept => exact inv.accept
  | tunnel i a e => exact inv.tunnel enabled
  | clientShutdown => exact inv.clientShutdown

theorem ServerInv.of_reachable (reachable : ServerReachable env s) : ServerInv env s := by
  induction reachable with
  | init => exact .init
  | step ev _ enabled inv => exact inv.step enabled

end Invariant

section Runs

variable {env : ServerEnv} {s s' : Server}

theorem serverReachable_of_run {events : List ServerEvent} (start : ServerReachable env s)
    (ran : Server.run env s events = some s') : ServerReachable env s' := by
  induction events generalizing s with
  | nil =>
      simp only [Server.run, Option.some.injEq] at ran
      exact ran ▸ start
  | cons ev rest ih =>
      by_cases enabled : s.Enabled ev
      · simp only [Server.run, enabled, ite_true] at ran
        exact ih (start.step ev enabled) ran
      · simp [Server.run, enabled] at ran

/-- Two clients connect and the first one sends its greeting. -/
def twoClientsRun : List ServerEvent :=
  [.accept, .accept, .tunnel 0 (answers greeting) (.readDone .incoming 3 [5, 1, 0])]

/-- The server at the end of `twoClientsRun`. -/
def twoClients : Server := (Server.run rawEnv ⟨[], []⟩ twoClientsRun).getD ⟨[], []⟩

theorem twoClients_reachable : ServerReachable rawEnv twoClients :=
  serverReachable_of_run .init
    (by decide : Server.run rawEnv ⟨[], []⟩ twoClientsRun = some twoClients)

/-- `tunnel_set` holds each tunnel at most once, and holds exactly the tunnels
`tunnel_dying` has not freed: `client_shutdown` never visits a freed tunnel and never misses
one that is still allocated. -/
theorem serverReachable_tunnelSet (reachable : ServerReachable env s) :
    s.tunnelSet.Nodup ∧ ∀ i, i ∈ s.tunnelSet ↔ ∃ t, s.tunnels[i]? = some t ∧ t.dead = false :=
  have inv := ServerInv.of_reachable reachable
  ⟨inv.nodup, inv.registered⟩

theorem twoClients_tunnelSet :
    ServerReachable rawEnv twoClients ∧ twoClients.tunnelSet.Nodup ∧
      ∀ i, i ∈ twoClients.tunnelSet ↔ ∃ t, twoClients.tunnels[i]? = some t ∧ t.dead = false :=
  ⟨twoClients_reachable, serverReachable_tunnelSet twoClients_reachable⟩

/-- After `client_shutdown` the set is as it was: every tunnel in it has begun its teardown,
is not yet freed, and accepts nothing but its `tunnel_dying`. -/
theorem clientShutdown_tears_down (reachable : ServerReachable env s) :
    (clientShutdown s).tunnelSet = s.tunnelSet ∧
      ∀ i ∈ s.tunnelSet, ∃ t, (clientShutdown s).tunnels[i]? = some t ∧
        t.terminated = true ∧ t.dead = false ∧
        ∀ a e, (clientShutdown s).Enabled (.tunnel i a e) ↔ e = .dying := by
  obtain ⟨set, tunnels⟩ := clientShutdown_spec s
  refine ⟨set, fun i member => ?_⟩
  obtain ⟨t, found, alive⟩ := ((ServerInv.of_reachable reachable).registered i).mp member
  have shut : (clientShutdown s).tunnels[i]? = some (doShutdownTunnel t) := by
    simp [tunnels, member, found]
  obtain ⟨bound, current⟩ := List.getElem?_eq_some_iff.mp shut
  refine ⟨doShutdownTunnel t, shut, by simp, by simp [alive], fun a e => ?_⟩
  simp only [Server.Enabled, bound, current, exists_true_left]
  cases e <;> simp [Enabled, alive]

/-- Delivering `tunnel_dying` to the tunnels of the set, in any order, when all of them
have begun their teardown: each delivery is allowed, frees its tunnel and takes it out of
the set, which ends empty; no other tunnel changes. -/
theorem run_dying_drains {order : List Nat} (a : Answers) (inv : ServerInv env s)
    (down : ∀ i ∈ s.tunnelSet, ∃ t, s.tunnels[i]? = some t ∧ t.terminated = true)
    (perm : order.Perm s.tunnelSet) :
    ∃ s', Server.run env s (order.map (.tunnel · a .dying)) = some s' ∧ s'.tunnelSet = [] ∧
      s'.tunnels.length = s.tunnels.length := by
  induction order generalizing s with
  | nil => exact ⟨s, rfl, List.eq_nil_of_subset_nil fun _ => by simp [perm.symm.mem_iff], rfl⟩
  | cons i rest ih =>
      have member : i ∈ s.tunnelSet := perm.mem_iff.mp (List.mem_cons_self i rest)
      obtain ⟨t, found, terminated⟩ := down i member
      obtain ⟨t', found', alive⟩ := (inv.registered i).mp member
      obtain rfl : t' = t := Option.some.inj (found'.symm.trans found)
      obtain ⟨bound, current⟩ := List.getElem?_eq_some_iff.mp found
      have enabled : s.Enabled (.tunnel i a .dying) :=
        ⟨by simp, bound, by simpa [Enabled, current] using ⟨terminated, alive⟩⟩
      have perm' : rest.Perm (s.step env (.tunnel i a .dying)).tunnelSet := by
        simpa [Server.step] using (perm.trans (List.perm_cons_erase member)).cons_inv
      have down' : ∀ j ∈ (s.step env (.tunnel i a .dying)).tunnelSet, ∃ t,
          (s.step env (.tunnel i a .dying)).tunnels[j]? = some t ∧ t.terminated = true := by
        intro j later
        have other : j ≠ i := ((inv.nodup.mem_erase_iff).mp (by simpa [Server.step] using later)).1
        simpa [Server.step, List.getElem?_modify_ne _ _ other.symm] using
          down j (List.mem_of_mem_erase (by simpa [Server.step] using later))
      obtain ⟨s', ran, empty, length⟩ := ih (inv.tunnel enabled) down' perm'
      exact ⟨s', by simpa [Server.run, enabled] using ran, empty,
        by simpa [Server.step] using length⟩

/-- No leak at shutdown: after `client_shutdown`, delivering `tunnel_dying` to the tunnels
of the set in any order empties the set, and then every tunnel the server ever accepted is
freed, holds no cipher and no `init_pkg`, and has released the cipher exactly when it
created one, then its `init_pkg`. -/
theorem clientShutdown_drains {order : List Nat} (a : Answers)
    (reachable : ServerReachable env s) (perm : order.Perm s.tunnelSet) :
    ∃ s', Server.run env (clientShutdown s) (order.map (.tunnel · a .dying)) = some s' ∧
      s'.tunnelSet = [] ∧ s'.tunnels.length = s.tunnels.length ∧
      ∀ t ∈ s'.tunnels, t.dead = true ∧ t.cipher = none ∧ t.initPkg = none ∧
        releases t.trace =
          (if creations t.trace = 1 then [.tunnelCipherRelease] else []) ++ [.bufferRelease] := by
  obtain ⟨set, down⟩ := clientShutdown_tears_down reachable
  have shut := reachable.step .clientShutdown trivial
  obtain ⟨s', ran, empty, length⟩ := run_dying_drains a (ServerInv.of_reachable shut)
    (fun i member => by
      obtain ⟨t, found, terminated, -⟩ := down i (set ▸ member)
      exact ⟨t, found, terminated⟩)
    (set.symm ▸ perm)
  have inv := ServerInv.of_reachable (serverReachable_of_run shut ran)
  refine ⟨s', ran, empty, by simpa [Server.step, clientShutdown] using length, fun t member => ?_⟩
  have dead : t.dead = true := by
    obtain ⟨i, found⟩ := List.mem_iff_getElem?.mp member
    by_contra alive
    simpa [empty] using (inv.registered i).mpr ⟨t, found, by simpa using alive⟩
  have common := (Inv.of_reachable (inv.reachable t member)).common
  exact ⟨dead, by simp [common.cipher, dead], by simp [common.initPkg, dead],
    by simp [common.released, dead]⟩

theorem twoClients_shutdown_drains :
    ServerReachable rawEnv twoClients ∧ [1, 0].Perm twoClients.tunnelSet ∧
      ∃ s', Server.run rawEnv (clientShutdown twoClients)
          ([1, 0].map (.tunnel · (answers greeting) .dying)) = some s' ∧
        s'.tunnelSet = [] ∧ s'.tunnels.length = twoClients.tunnels.length ∧
        ∀ t ∈ s'.tunnels, t.dead = true ∧ t.cipher = none ∧ t.initPkg = none ∧
          releases t.trace =
            (if creations t.trace = 1 then [.tunnelCipherRelease] else []) ++ [.bufferRelease] :=
  ⟨twoClients_reachable, by decide,
    clientShutdown_drains (answers greeting) twoClients_reachable (by decide)⟩

end Runs

end SsrClient
