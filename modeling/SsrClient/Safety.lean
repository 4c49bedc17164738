import SsrClient.Preservation

/-!
# Socket discipline and progress

Two consequences of the run invariant for every reachable state, on either path: no
socket-state expectation of `client.c` is ever broken (so each socket has at most one read
and one write in flight, and `do_next` never reaches a stage it does not handle), and a
live tunnel always waits for some completion.

The runs used to exercise these statements follow the spec's sixth scenario: a greeting
offering `none`, a CONNECT to `127.0.0.1:8080`, a literal upstream address, and a cipher
that asks for no feedback.
-/

namespace SsrClient

open TunnelCtx

/-- In every reachable state no `ASSERT` on socket states failed, no `UNREACHABLE()` of
`do_next` or `do_handshake_auth` was reached, and no read or write was armed on a socket
whose read or write was outstanding. -/
theorem reachable_socketFaults_eq_zero {env : ServerEnv} {t : TunnelCtx}
    (reachable : Reachable env t) : socketFaults t.trace = 0 :=
  (Inv.of_reachable reachable).common.faults

/-- A raw-path configuration with a literal upstream address, built with `NDEBUG`. -/
def rawEnv : ServerEnv where
  config := ⟨"8.8.8.8", 443, "127.0.0.1", 1080, false, false⟩
  ndebug := true
  convertUniversalAddress _ _ := some (.inet 0x08080808 443)
  buildUdpAssocPackage _ _ _ _ := [5, 0, 0, 1, 0, 0, 0, 0, 0, 0]

/-- The collaborators' answers: the parser's `result`, an encryption to `09 09 09`, a
decryption that consumes its input, no feedback, and a connect that starts. -/
def answers (parsed : Parsed) : Answers := ⟨parsed, some [9, 9, 9], ⟨true, [], none⟩, false, 0⟩

/-- `05 01 00`: one method offered, `none`. -/
def greeting : Parsed := ⟨⟨[.none], .tcpConnect, .ipv4, [], 0⟩, .authSelect, 0⟩

/-- `05 01 00 01 7F 00 00 01 1F 90`: CONNECT to `127.0.0.1:8080`. -/
def connectLoopback : Parsed := ⟨⟨[.none], .tcpConnect, .ipv4, [127, 0, 0, 1], 8080⟩, .execCmd, 0⟩

/-- Greeting, method reply, CONNECT request, connect, encrypted `init_pkg` written, success
reply written: the tunnel is streaming. -/
def connectRun : List (Answers × Event) :=
  [(answers greeting, .readDone .incoming 3 [5, 1, 0]),
    (answers greeting, .writeDone .incoming 2),
    (answers connectLoopback, .readDone .incoming 10 [5, 1, 0, 1, 127, 0, 0, 1, 0x1F, 0x90]),
    (answers connectLoopback, .outgoingConnected 0),
    (answers connectLoopback, .writeDone .outgoing 3),
    (answers connectLoopback, .writeDone .incoming 12)]

/-- The tunnel at the end of `connectRun`. -/
def streamingTunnel : TunnelCtx := (run rawEnv initDoneCb connectRun).getD initDoneCb

theorem streamingTunnel_reachable : Reachable rawEnv streamingTunnel :=
  reachable_of_run .init (by decide : run rawEnv initDoneCb connectRun = some streamingTunnel)

example : streamingTunnel.stage = .streaming := by decide

theorem streamingTunnel_socketFaults : socketFaults streamingTunnel.trace = 0 :=
  reachable_socketFaults_eq_zero streamingTunnel_reachable

/-- A live tunnel whose TLS transport is not being shut down always waits for a
completion: an armed read or write, a connect or lookup, or the TLS transport's connection
or first reply. -/
theorem reachable_pending {env : ServerEnv} {t : TunnelCtx} (reachable : Reachable env t)
    (live : t.terminated = false) (tlsOpen : t.tls ≠ .closing) : Pending t :=
  ((Inv.of_reachable reachable).shape live).pending tlsOpen

theorem streamingTunnel_pending : Pending streamingTunnel :=
  reachable_pending streamingTunnel_reachable (by decide) (by decide)

end SsrClient
