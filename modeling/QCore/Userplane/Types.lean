import QCore.Foundation.Outcome

/-!
# Addresses, tunnels and userplane sessions

The values that the control plane and the packet pipelines exchange: IP
addresses, the transport layer address of an F1AP message with its conversion
to an IP address, GTP tunnels, and the session handed out by a reservation.
-/

namespace QCore
namespace Userplane

open Foundation

inductive UserplaneError where
  -- "No more slots available"
  | noMoreSlotsAvailable
  -- "IPv6 not implemented"
  | ipv6NotImplemented
  -- "Bad length {}"
  | badLength (length : Nat)
  | tunRead
  | socketSend
deriving DecidableEq, Repr

structure Ipv4Addr where
  octets : Vector UInt8 4
deriving DecidableEq, Repr

inductive IpAddr where
  | v4 (addr : Ipv4Addr)
  | v6 (octets : Vector UInt8 16)
deriving DecidableEq, Repr

/-- A bit string kept in whole bytes.  The bits of the last byte beyond `len`
are whatever the decoder left there. -/
structure BitString where
  storage : List UInt8
  len : Nat
  storage_length : storage.length = (len + 7) / 8
deriving DecidableEq, Repr

namespace BitString

/-- `BitVec::from_slice` -/
def fromSlice (bytes : List UInt8) : BitString where
  storage := bytes
  len := 8 * bytes.length
  storage_length := by lia

/-- `BitVec::into_vec` on a vector that starts at bit 0. -/
def intoVec (b : BitString) : List UInt8 :=
  b.storage

end BitString

structure TransportLayerAddress where
  bits : BitString
deriving DecidableEq, Repr

/-- `From<IpAddr> for TransportLayerAddress` -/
def TransportLayerAddress.fromIpAddr : IpAddr -> TransportLayerAddress
  | IpAddr.v4 x => ⟨BitString.fromSlice x.octets.toList⟩
  | IpAddr.v6 x => ⟨BitString.fromSlice x.toList⟩

/-- `TryFrom<TransportLayerAddress> for IpAddr`: the number of storage bytes
decides. -/
def IpAddr.tryFrom (addr : TransportLayerAddress) :
    Outcome UserplaneError IpAddr :=
  let v := addr.bits.intoVec
  if h4 : v.length = 4 then
    Outcome.ok (IpAddr.v4 ⟨⟨v.toArray, by simpa using h4⟩⟩)
  else if h16 : v.length = 16 then
    Outcome.ok (IpAddr.v6 ⟨v.toArray, by simpa using h16⟩)
  else
    Outcome.err (UserplaneError.badLength v.length)

structure GtpTunnel where
  transportLayerAddress : TransportLayerAddress
  gtpTeid : Vector UInt8 4
deriving DecidableEq, Repr

structure UserplaneSession where
  qfi : UInt8
  uplinkGtpTeid : Vector UInt8 4
  ueIpAddr : IpAddr
deriving DecidableEq, Repr

/-!
## When the conversion succeeds
-/

theorem tryFrom_cases (addr : TransportLayerAddress) :
    (exists a, IpAddr.tryFrom addr = Outcome.ok (IpAddr.v4 a) ∧
      25 <= addr.bits.len ∧ addr.bits.len <= 32) ∨
    (exists a, IpAddr.tryFrom addr = Outcome.ok (IpAddr.v6 a) ∧
      121 <= addr.bits.len ∧ addr.bits.len <= 128) ∨
    (exists n, IpAddr.tryFrom addr =
        Outcome.err (UserplaneError.badLength n) ∧
      ¬ (25 <= addr.bits.len ∧ addr.bits.len <= 32) ∧
      ¬ (121 <= addr.bits.len ∧ addr.bits.len <= 128)) := by
  have hlen := addr.bits.storage_length
  unfold IpAddr.tryFrom BitString.intoVec
  by_cases h4 : addr.bits.storage.length = 4
  · refine Or.inl ⟨_, dif_pos h4, ?_⟩
    lia
  · apply Or.inr
    by_cases h16 : addr.bits.storage.length = 16
    · refine Or.inl ⟨_, (dif_neg h4).trans (dif_pos h16), ?_⟩
      lia
    · refine Or.inr ⟨_, (dif_neg h4).trans (dif_neg h16), ?_⟩
      lia

theorem tryFrom_ne_panic (addr : TransportLayerAddress) :
    IpAddr.tryFrom addr ≠ Outcome.panic := by
  intro h
  rcases tryFrom_cases addr with ⟨_, hok, _⟩ | ⟨_, hok, _⟩ | ⟨_, herr, _⟩
  · rw [h] at hok
    cases hok
  · rw [h] at hok
    cases hok
  · rw [h] at herr
    cases herr

/-!
## Exactly IP addresses

The storage of a bit string is rounded up to whole bytes, so strings that are a
few bits short pass the check, and the missing bits are there on the way back.
-/

theorem tryFrom_fromIpAddr (ip : IpAddr) :
    IpAddr.tryFrom (TransportLayerAddress.fromIpAddr ip) = Outcome.ok ip := by
  cases ip with
  | v4 addr =>
      have h4 : addr.octets.toList.length = 4 := Vector.length_toList
      exact dif_pos h4
  | v6 octets =>
      have h16 : octets.toList.length = 16 := Vector.length_toList
      have h4 : ¬ octets.toList.length = 4 := by
        rw [h16]
        decide
      exact (dif_neg h4).trans (dif_pos h16)

theorem fromSlice_storage {b : BitString} (h : b.len = 8 * b.storage.length) :
    BitString.fromSlice b.storage = b := by
  cases b with
  | mk storage len storage_length =>
      change len = 8 * storage.length at h
      simp only [BitString.fromSlice, h]

theorem fromIpAddr_tryFrom {b : BitString} {ip : IpAddr}
    (h : IpAddr.tryFrom ⟨b⟩ = Outcome.ok ip) :
    TransportLayerAddress.fromIpAddr ip = ⟨BitString.fromSlice b.storage⟩ := by
  unfold IpAddr.tryFrom BitString.intoVec at h
  by_cases h4 : b.storage.length = 4
  · rw [dif_pos h4] at h
    cases h
    rfl
  · rw [dif_neg h4] at h
    by_cases h16 : b.storage.length = 16
    · rw [dif_pos h16] at h
      cases h
      rfl
    · rw [dif_neg h16] at h
      cases h

/-- What the conversions are for: the bit strings of the two lengths are the
addresses, and neither direction changes anything. -/
structure ConvertsExactly (b : BitString) : Prop where
  accepted : (exists ip, IpAddr.tryFrom ⟨b⟩ = Outcome.ok ip) <->
    b.len = 32 ∨ b.len = 128
  back : forall ip, IpAddr.tryFrom ⟨b⟩ = Outcome.ok ip ->
    TransportLayerAddress.fromIpAddr ip = ⟨b⟩
  forth : forall ip,
    IpAddr.tryFrom (TransportLayerAddress.fromIpAddr ip) = Outcome.ok ip

theorem tryFrom_ok_iff (b : BitString) :
    (exists ip, IpAddr.tryFrom ⟨b⟩ = Outcome.ok ip) <->
      (25 <= b.len ∧ b.len <= 32) ∨ (121 <= b.len ∧ b.len <= 128) := by
  rcases tryFrom_cases ⟨b⟩ with
    ⟨a, hok, hlen⟩ | ⟨a, hok, hlen⟩ | ⟨n, herr, hshort, hlong⟩
  · exact iff_of_true ⟨_, hok⟩ (Or.inl hlen)
  · exact iff_of_true ⟨_, hok⟩ (Or.inr hlen)
  · apply iff_of_false
    · intro h
      rcases h with ⟨ip, hok⟩
      rw [herr] at hok
      cases hok
    · intro h
      rcases h with h | h
      · exact hshort h
      · exact hlong h

/-- For every bit string: the conversions are exact unless it has 25 to 31 or
121 to 127 bits. -/
theorem convertsExactly_iff (b : BitString) :
    ConvertsExactly b <->
      ¬ (25 <= b.len ∧ b.len <= 31) ∧ ¬ (121 <= b.len ∧ b.len <= 127) := by
  constructor
  · intro h
    have haccepted := h.accepted
    rw [tryFrom_ok_iff] at haccepted
    lia
  · intro h
    have haccepted : (exists ip, IpAddr.tryFrom ⟨b⟩ = Outcome.ok ip) <->
        b.len = 32 ∨ b.len = 128 := by
      rw [tryFrom_ok_iff]
      lia
    refine ⟨haccepted, ?_, tryFrom_fromIpAddr⟩
    intro ip hok
    have hlen := haccepted.mp ⟨ip, hok⟩
    have hstorage := b.storage_length
    rw [fromIpAddr_tryFrom hok, fromSlice_storage (by lia)]

/-- 25 bits are taken for an IPv4 address, which has 32. -/
def shortAddress : BitString where
  storage := [10, 255, 0, 0x80]
  len := 25
  storage_length := rfl

theorem not_convertsExactly_shortAddress :
    (exists addr, IpAddr.tryFrom ⟨shortAddress⟩ = Outcome.ok (IpAddr.v4 addr) ∧
      addr.octets.toList = [10, 255, 0, 0x80] ∧
      (TransportLayerAddress.fromIpAddr (IpAddr.v4 addr)).bits.len = 32) ∧
    ¬ ConvertsExactly shortAddress := by
  constructor
  · exact ⟨_, rfl, rfl, rfl⟩
  · intro h
    have haccepted := h.accepted.mp ⟨_, rfl⟩
    rcases haccepted with h32 | h128
    · cases h32
    · cases h128

end Userplane
end QCore
