import SsrClient.Tunnel

/-!
# The destination record `init_pkg`

`initial_package_create` encodes the destination of a CONNECT request as
`atyp(1) || [ ipv4(4) | ipv6(16) | len(1) host(len) ] || port(2, big-endian)`, the record
that leads the first upstream payload and follows `05 00 00` in the success reply.  This
file models the encoder and reads the record back by the same layout.  A host name is
measured with `strlen`, so the round trip holds for host names without a zero byte; one
with a zero byte is cut there.
-/

namespace SsrClient

/-- Modelled from the spec: the wire value of an address type in the record's first
byte (`s5.h`, which declares `enum s5_atyp`, is not part of this development). -/
def S5Atyp.toByte : S5Atyp → UInt8
  | .ipv4 => 1
  | .ipv6 => 4
  | .host => 3

/-- `htons(port)` as it lands in memory: high byte first. -/
def portBytes (port : UInt16) : List UInt8 :=
  [UInt8.ofNat (port.toNat / 256), UInt8.ofNat (port.toNat % 256)]

/-- `strlen` of the NUL-terminated `daddr` array: the bytes before the first zero. -/
def strlen (s : List UInt8) : Nat := (s.takeWhile (· ≠ 0)).length

/-- The address bytes `initial_package_create` copies after the type byte. -/
def addressField (p : S5Ctx) : List UInt8 :=
  match p.atyp with
  | .ipv4 => p.daddr.take 4
  | .ipv6 => p.daddr.take 16
  | .host => UInt8.ofNat (strlen p.daddr) :: p.daddr.take (strlen p.daddr % 256)

/-- `initial_package_create`: type byte, address, port.  `buffer->len` is the length of
the list. -/
def initialPackageCreate (p : S5Ctx) : List UInt8 :=
  p.atyp.toByte :: addressField p ++ portBytes p.dport

/-- The port stored in two bytes, high byte first. -/
def readPort (hi lo : UInt8) : UInt16 := UInt16.ofNat (hi.toNat * 256 + lo.toNat)

/-- An address of `width` bytes followed by a port; `none` when the bytes run out. -/
def readField (atyp : S5Atyp) (width : Nat) (bytes : List UInt8) :
    Option (S5Atyp × List UInt8 × UInt16 × List UInt8) :=
  match bytes.drop width with
  | hi :: lo :: rest =>
      if width ≤ bytes.length then some (atyp, bytes.take width, readPort hi lo, rest) else none
  | _ => none

/-- The record of the spec's layout read back: address type, address bytes, port, and the
bytes after the record. -/
def decodeAddress : List UInt8 → Option (S5Atyp × List UInt8 × UInt16 × List UInt8)
  | 1 :: rest => readField .ipv4 4 rest
  | 4 :: rest => readField .ipv6 16 rest
  | 3 :: len :: rest => readField .host len.toNat rest
  | _ => none

/-- The addresses a round trip keeps: four bytes, sixteen bytes, or a host name of at most
255 bytes without a zero byte. -/
def AddressFits (p : S5Ctx) : Prop :=
  match p.atyp with
  | .ipv4 => p.daddr.length = 4
  | .ipv6 => p.daddr.length = 16
  | .host => p.daddr.length ≤ 255 ∧ 0 ∉ p.daddr

/-- The record's length: type byte, address (with its length byte for a host), port. -/
def addressLength (p : S5Ctx) : Nat :=
  match p.atyp with
  | .ipv4 => 1 + 4 + 2
  | .ipv6 => 1 + 16 + 2
  | .host => 1 + 1 + p.daddr.length + 2

theorem readPort_portBytes (port : UInt16) :
    readPort (UInt8.ofNat (port.toNat / 256)) (UInt8.ofNat (port.toNat % 256)) = port := by
  have bound := port.toNat_lt_size
  have hiSmall : port.toNat / 256 < UInt8.size := by
    change port.toNat / 256 < 256
    change port.toNat < 65536 at bound
    omega
  have loSmall : port.toNat % 256 < UInt8.size := Nat.mod_lt _ (by decide)
  apply UInt16.toNat.inj
  rw [readPort, UInt8.toNat_ofNat_of_lt hiSmall, UInt8.toNat_ofNat_of_lt loSmall,
    Nat.div_add_mod', UInt16.toNat_ofNat_of_lt bound]

theorem readField_append (atyp : S5Atyp) (address : List UInt8) (port : UInt16) :
    readField atyp address.length (address ++ portBytes port) =
      some (atyp, address, port, []) := by
  simp [readField, portBytes, List.drop_left, readPort_portBytes]

theorem strlen_eq_length {s : List UInt8} (noZero : 0 ∉ s) : strlen s = s.length := by
  rw [strlen, List.takeWhile_eq_self_iff.mpr]
  intro byte member
  simpa using ne_of_mem_of_not_mem member noZero

/-- A fitting address is copied whole, behind its length byte for a host name. -/
theorem addressField_of_fits {p : S5Ctx} (fits : AddressFits p) :
    addressField p =
      (if p.atyp = .host then [UInt8.ofNat p.daddr.length] else []) ++ p.daddr := by
  unfold AddressFits at fits
  unfold addressField
  split <;> simp_all [List.take_of_length_le, strlen_eq_length, Nat.mod_eq_of_lt]
  omega

/-- Decoding `init_pkg` by the spec's layout returns the request's address type, address
and port and consumes the whole record. -/
theorem decodeAddress_initialPackageCreate {p : S5Ctx} (fits : AddressFits p) :
    decodeAddress (initialPackageCreate p) = some (p.atyp, p.daddr, p.dport, []) := by
  have field := addressField_of_fits fits
  unfold AddressFits at fits
  rw [initialPackageCreate, field]
  cases atyp : p.atyp <;> simp only [atyp] at fits
  · simpa [S5Atyp.toByte, decodeAddress, ← fits] using readField_append .ipv4 p.daddr p.dport
  · simpa [S5Atyp.toByte, decodeAddress, ← fits] using readField_append .ipv6 p.daddr p.dport
  · have small : p.daddr.length < UInt8.size := by
      change p.daddr.length < 256
      omega
    simpa [S5Atyp.toByte, decodeAddress, UInt8.toNat_ofNat_of_lt small] using
      readField_append .host p.daddr p.dport

theorem initialPackageCreate_length {p : S5Ctx} (fits : AddressFits p) :
    (initialPackageCreate p).length = addressLength p := by
  have field := addressField_of_fits fits
  unfold AddressFits at fits
  rw [initialPackageCreate, field, addressLength]
  cases atyp : p.atyp <;> simp only [atyp] at fits <;> simp [atyp, fits, portBytes]
  omega

end SsrClient
