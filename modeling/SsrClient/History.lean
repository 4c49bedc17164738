import SsrClient.Machine

/-!
# Reading a run's history

What a run does is read off sub-sequences of its history: the bytes written to the
SOCKS client, the payloads handed to the upstream, the operations on the cipher, the
creations of the cipher, the connects and the lookups, and the broken expectations.  Each
is a `filterMap` or a count over the trace, so it distributes over the appends a step
makes.
-/

namespace SsrClient

/-- A write to the SOCKS client. -/
@[simp] def Obs.reply : Obs → Option (List UInt8)
  | .call (.socketWrite .incoming buf) => some buf
  | _ => none

/-- A payload handed to the upstream: a write on `outgoing` or a send over TLS. -/
@[simp] def Obs.payload : Obs → Option (List UInt8)
  | .call (.socketWrite .outgoing buf) => some buf
  | .call (.tunnelTlsSendData buf) => some buf
  | _ => none

/-- An encryption or decryption by the cipher. -/
@[simp] def Obs.cipherOp : Obs → Option Call
  | .call (.tunnelCipherClientEncrypt src buf result) =>
      some (.tunnelCipherClientEncrypt src buf result)
  | .call (.tunnelCipherClientDecrypt src buf result) =>
      some (.tunnelCipherClientDecrypt src buf result)
  | _ => none

/-- `tunnel_cipher_create`. -/
@[simp] def Obs.createsCipher : Obs → Bool
  | .call (.tunnelCipherCreate _) => true
  | _ => false

/-- The expectations on socket states: a rdstate/wrstate `ASSERT`, the `incoming` check of
the TLS streaming handler, an `UNREACHABLE()` of `do_next` or `do_handshake_auth`, and the
one-read and one-write rules. -/
@[simp] def Obs.socketFault : Obs → Bool
  | .fault (.assertion .socketState) => true
  | .fault (.assertion .incomingSocket) => true
  | .fault (.unreachable .doNext) => true
  | .fault (.unreachable .doHandshakeAuth) => true
  | .fault (.secondRead _) => true
  | .fault (.secondWrite _) => true
  | _ => false

/-- A `socket_connect`, with the address it connects to. -/
@[simp] def Obs.connect : Obs → Option SockAddr
  | .call (.socketConnect addr) => some addr
  | _ => none

/-- A completed lookup of `remote_host`, the only name `client.c` looks up: its result and
the address it delivered. -/
@[simp] def Obs.lookup : Obs → Option (Int × SockAddr)
  | .event (.getaddrinfoDone result addr) => some (result, addr)
  | _ => none

/-- A release by `tunnel_dying`: of the cipher, or of `init_pkg`. -/
@[simp] def Obs.release : Obs → Option Call
  | .call .tunnelCipherRelease => some .tunnelCipherRelease
  | .call .bufferRelease => some .bufferRelease
  | _ => none

/-- An encryption of a clone of `init_pkg`. -/
@[simp] def Call.isInitPkgEncrypt : Call → Bool
  | .tunnelCipherClientEncrypt .initPkg _ _ => true
  | _ => false

/-- The bytes written to the SOCKS client, in order. -/
def replies (trace : List Obs) : List (List UInt8) := trace.filterMap Obs.reply

/-- The payloads handed to the upstream, in order. -/
def payloads (trace : List Obs) : List (List UInt8) := trace.filterMap Obs.payload

/-- The operations on the cipher, in order. -/
def cipherOps (trace : List Obs) : List Call := trace.filterMap Obs.cipherOp

/-- The releases of the cipher and of `init_pkg`, in order. -/
def releases (trace : List Obs) : List Call := trace.filterMap Obs.release

/-- How many times the cipher was created. -/
def creations (trace : List Obs) : Nat := trace.countP Obs.createsCipher

/-- How many socket-state expectations were broken. -/
def socketFaults (trace : List Obs) : Nat := trace.countP Obs.socketFault

/-- The addresses connected to, in order. -/
def connects (trace : List Obs) : List SockAddr := trace.filterMap Obs.connect

/-- The completed lookups, in order. -/
def lookups (trace : List Obs) : List (Int × SockAddr) := trace.filterMap Obs.lookup

/-- The addresses the upstream server has in a run: `remote_host` converted as a literal
address, or an address a successful lookup of `remote_host` delivered, with `remote_port`
patched in. -/
def UpstreamAddress (env : ServerEnv) (trace : List Obs) (addr : SockAddr) : Prop :=
  env.convertUniversalAddress env.config.remoteHost env.config.remotePort = some addr ∨
    ∃ found ∈ lookups trace, 0 ≤ found.1 ∧ addr = found.2.withPort env.config.remotePort

instance (env : ServerEnv) (trace : List Obs) (addr : SockAddr) :
    Decidable (UpstreamAddress env trace addr) :=
  inferInstanceAs (Decidable (_ ∨ _))

@[simp] theorem replies_append (l₁ l₂ : List Obs) :
    replies (l₁ ++ l₂) = replies l₁ ++ replies l₂ := List.filterMap_append ..
@[simp] theorem payloads_append (l₁ l₂ : List Obs) :
    payloads (l₁ ++ l₂) = payloads l₁ ++ payloads l₂ := List.filterMap_append ..
@[simp] theorem cipherOps_append (l₁ l₂ : List Obs) :
    cipherOps (l₁ ++ l₂) = cipherOps l₁ ++ cipherOps l₂ := List.filterMap_append ..
@[simp] theorem releases_append (l₁ l₂ : List Obs) :
    releases (l₁ ++ l₂) = releases l₁ ++ releases l₂ := List.filterMap_append ..
@[simp] theorem creations_append (l₁ l₂ : List Obs) :
    creations (l₁ ++ l₂) = creations l₁ + creations l₂ := List.countP_append ..
@[simp] theorem socketFaults_append (l₁ l₂ : List Obs) :
    socketFaults (l₁ ++ l₂) = socketFaults l₁ + socketFaults l₂ := List.countP_append ..
@[simp] theorem connects_append (l₁ l₂ : List Obs) :
    connects (l₁ ++ l₂) = connects l₁ ++ connects l₂ := List.filterMap_append ..
@[simp] theorem lookups_append (l₁ l₂ : List Obs) :
    lookups (l₁ ++ l₂) = lookups l₁ ++ lookups l₂ := List.filterMap_append ..

@[simp] theorem replies_cons (o : Obs) (l : List Obs) :
    replies (o :: l) = (o.reply.map ([·] ++ replies l)).getD (replies l) := by
  rw [replies, List.filterMap_cons]
  cases o.reply <;> rfl
@[simp] theorem payloads_cons (o : Obs) (l : List Obs) :
    payloads (o :: l) = (o.payload.map ([·] ++ payloads l)).getD (payloads l) := by
  rw [payloads, List.filterMap_cons]
  cases o.payload <;> rfl
@[simp] theorem cipherOps_cons (o : Obs) (l : List Obs) :
    cipherOps (o :: l) = (o.cipherOp.map ([·] ++ cipherOps l)).getD (cipherOps l) := by
  rw [cipherOps, List.filterMap_cons]
  cases o.cipherOp <;> rfl
@[simp] theorem releases_cons (o : Obs) (l : List Obs) :
    releases (o :: l) = (o.release.map ([·] ++ releases l)).getD (releases l) := by
  rw [releases, List.filterMap_cons]
  cases o.release <;> rfl
@[simp] theorem creations_cons (o : Obs) (l : List Obs) :
    creations (o :: l) = creations l + if o.createsCipher then 1 else 0 := by
  simp [creations, List.countP_cons]
@[simp] theorem socketFaults_cons (o : Obs) (l : List Obs) :
    socketFaults (o :: l) = socketFaults l + if o.socketFault then 1 else 0 := by
  simp [socketFaults, List.countP_cons]
@[simp] theorem connects_cons (o : Obs) (l : List Obs) :
    connects (o :: l) = (o.connect.map ([·] ++ connects l)).getD (connects l) := by
  rw [connects, List.filterMap_cons]
  cases o.connect <;> rfl
@[simp] theorem lookups_cons (o : Obs) (l : List Obs) :
    lookups (o :: l) = (o.lookup.map ([·] ++ lookups l)).getD (lookups l) := by
  rw [lookups, List.filterMap_cons]
  cases o.lookup <;> rfl

section Ite

variable (c : Prop) [Decidable c] (l₁ l₂ : List Obs)

@[simp] theorem replies_ite :
    replies (if c then l₁ else l₂) = if c then replies l₁ else replies l₂ := apply_ite ..
@[simp] theorem payloads_ite :
    payloads (if c then l₁ else l₂) = if c then payloads l₁ else payloads l₂ := apply_ite ..
@[simp] theorem cipherOps_ite :
    cipherOps (if c then l₁ else l₂) = if c then cipherOps l₁ else cipherOps l₂ := apply_ite ..
@[simp] theorem releases_ite :
    releases (if c then l₁ else l₂) = if c then releases l₁ else releases l₂ := apply_ite ..
@[simp] theorem creations_ite :
    creations (if c then l₁ else l₂) = if c then creations l₁ else creations l₂ := apply_ite ..
@[simp] theorem socketFaults_ite :
    socketFaults (if c then l₁ else l₂) = if c then socketFaults l₁ else socketFaults l₂ :=
  apply_ite ..
@[simp] theorem connects_ite :
    connects (if c then l₁ else l₂) = if c then connects l₁ else connects l₂ := apply_ite ..
@[simp] theorem lookups_ite :
    lookups (if c then l₁ else l₂) = if c then lookups l₁ else lookups l₂ := apply_ite ..

end Ite

@[simp] theorem replies_nil : replies [] = [] := rfl
@[simp] theorem payloads_nil : payloads [] = [] := rfl
@[simp] theorem cipherOps_nil : cipherOps [] = [] := rfl
@[simp] theorem releases_nil : releases [] = [] := rfl
@[simp] theorem creations_nil : creations [] = 0 := rfl
@[simp] theorem socketFaults_nil : socketFaults [] = 0 := rfl
@[simp] theorem connects_nil : connects [] = [] := rfl
@[simp] theorem lookups_nil : lookups [] = [] := rfl

/-- A longer history knows every upstream address a shorter one knew. -/
theorem UpstreamAddress.mono {env : ServerEnv} {l l' : List Obs} {addr : SockAddr}
    (upstream : UpstreamAddress env l addr) (grows : l <+: l') : UpstreamAddress env l' addr := by
  obtain ⟨more, rfl⟩ := grows
  rcases upstream with literal | ⟨found, member, resolved⟩
  · exact .inl literal
  · exact .inr ⟨found, by simp [member], resolved⟩

/-- The same, for an appended stretch. -/
theorem UpstreamAddress.append {env : ServerEnv} {l : List Obs} {addr : SockAddr}
    (upstream : UpstreamAddress env l addr) (more : List Obs) :
    UpstreamAddress env (l ++ more) addr :=
  upstream.mono (List.prefix_append l more)

/-- The cipher's first operation encrypts a clone of `pkg`, and no later operation
encrypts `init_pkg` again. -/
def InitPkgFirst (pkg : List UInt8) : List Call → Prop
  | [] => True
  | op :: rest => (∃ result, op = .tunnelCipherClientEncrypt .initPkg pkg result) ∧
      ∀ op ∈ rest, op.isInitPkgEncrypt = false

/-- The first payload handed upstream is the output of the cipher's first operation, an
encryption of `init_pkg`. -/
def PayloadFirst (ops : List Call) : List (List UInt8) → Prop
  | [] => True
  | buf :: _ => ∃ pkg, ops.head? = some (.tunnelCipherClientEncrypt .initPkg pkg (some buf))

@[simp] theorem initPkgFirst_nil (pkg : List UInt8) : InitPkgFirst pkg [] := trivial
@[simp] theorem payloadFirst_nil (ops : List Call) : PayloadFirst ops [] := trivial

theorem InitPkgFirst.append {pkg : List UInt8} {ops more : List Call}
    (first : InitPkgFirst pkg ops) (started : ops ≠ [])
    (fresh : ∀ op ∈ more, op.isInitPkgEncrypt = false) : InitPkgFirst pkg (ops ++ more) := by
  cases ops with
  | nil => exact absurd rfl started
  | cons op rest =>
      obtain ⟨encrypts, later⟩ := first
      refine ⟨encrypts, fun op member => ?_⟩
      rcases List.mem_append.mp member with old | new
      · exact later op old
      · exact fresh op new

theorem PayloadFirst.append {ops more : List Call} {up sent : List (List UInt8)}
    (first : PayloadFirst ops up) (started : up ≠ []) :
    PayloadFirst (ops ++ more) (up ++ sent) := by
  cases up with
  | nil => exact absurd rfl started
  | cons buf rest =>
      obtain ⟨pkg, head⟩ := first
      cases ops with
      | nil => simp at head
      | cons op ops => exact ⟨pkg, head⟩

theorem PayloadFirst.appendOps {ops more : List Call} {up : List (List UInt8)}
    (first : PayloadFirst ops up) (started : up ≠ []) : PayloadFirst (ops ++ more) up := by
  simpa using @PayloadFirst.append ops more up [] first started

end SsrClient
