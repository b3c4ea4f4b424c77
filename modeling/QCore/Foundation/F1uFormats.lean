import Mathlib.Data.Nat.Bitwise
import QCore.Foundation.Bytes

/-!
# Formats of the F1-U interface

A decoder for what a DU receives on the downlink: a GTP-U message (TS 29.281)
with its extension headers, the DL USER DATA frame in an NR RAN container
(TS 38.425), and a PDCP data PDU with a sequence number of 12 bits (TS 38.323).
-/

namespace QCore
namespace Foundation
namespace F1u

/-- The number that bytes stand for, the most significant one first. -/
def number (bytes : Bytes) : Nat :=
  bytes.foldl (fun n byte => 256 * n + byte.toNat) 0

/-!
## GTP-U
-/

structure Extension where
  type : UInt8
  /-- The declared length in bytes, with the length byte and the next type. -/
  length : Nat
  content : Bytes
deriving DecidableEq, Repr

/-- The extension headers from the one of this type on, and what follows them. -/
def decodeExtensions (type : UInt8) (bytes : Bytes) :
    Option (List Extension × Bytes) :=
  if type = 0 then
    some ([], bytes)
  else
    match bytes with
    | [] => none
    | units :: rest =>
        if units = 0 then
          none
        else
          match rest[4 * units.toNat - 2]? with
          | none => none
          | some next => do
              let (extensions, payload) <-
                decodeExtensions next (rest.drop (4 * units.toNat - 1))
              some (⟨type, 4 * units.toNat,
                rest.take (4 * units.toNat - 2)⟩ :: extensions, payload)
termination_by bytes.length
decreasing_by
  rw [List.length_drop, List.length_cons]
  lia

@[simp] theorem decodeExtensions_zero (bytes : Bytes) :
    decodeExtensions 0 bytes = some ([], bytes) := by
  rw [decodeExtensions.eq_def, if_pos rfl]

theorem decodeExtensions_cons {type units : UInt8} {content : Bytes}
    (htype : type ≠ 0) (hsize : content.length + 2 = 4 * units.toNat)
    (next : UInt8) (after : Bytes) :
    decodeExtensions type (units :: (content ++ next :: after)) =
      (decodeExtensions next after).map fun decoded =>
        (⟨type, 4 * units.toNat, content⟩ :: decoded.1, decoded.2) := by
  have hunits : units ≠ 0 := by
    intro hzero
    rw [hzero] at hsize
    cases hsize
  have hlength : 4 * units.toNat - 2 = content.length := by
    lia
  have hdrop : 4 * units.toNat - 1 = content.length + 1 := by
    lia
  have hnext : (content ++ next :: after)[content.length]? = some next := by
    simp
  have hafter : (content ++ next :: after).drop (content.length + 1) =
      after := by
    simp
  rw [decodeExtensions.eq_def, if_neg htype]
  simp only [if_neg hunits, hlength, hdrop, hnext, hafter, List.take_left]
  cases decodeExtensions next after with
  | none => rfl
  | some decoded => rfl

structure Message where
  messageType : UInt8
  /-- The length field: what follows the first eight bytes. -/
  length : Nat
  teid : Bytes
  extensions : List Extension
  payload : Bytes
deriving DecidableEq, Repr

def decodeMessage : Bytes -> Option Message
  | flags :: messageType :: l0 :: l1 :: t0 :: t1 :: t2 :: t3 :: body =>
      -- version 1 and protocol type GTP
      if flags &&& 0xf0 ≠ 0x30 ∨ body.length ≠ number [l0, l1] then
        none
      else if flags &&& 0x07 = 0 then
        some ⟨messageType, number [l0, l1], [t0, t1, t2, t3], [], body⟩
      else
        -- one of E, S and PN is set, so all three optional fields are there
        match body with
        | _ :: _ :: _ :: next :: rest => do
            let (extensions, payload) <-
              decodeExtensions (if flags &&& 0x04 = 0 then 0 else next) rest
            some ⟨messageType, number [l0, l1], [t0, t1, t2, t3], extensions,
              payload⟩
        | _ => none
  | _ => none

theorem decodeMessage_extended (messageType : UInt8) {length : Bytes}
    (teid : Vector UInt8 4) (s0 s1 pduNumber next : UInt8) (rest : Bytes)
    (hbytes : length.length = 2) (hlength : number length = rest.length + 4) :
    decodeMessage ([0x34, messageType] ++ length ++ teid.toList ++
        [s0, s1, pduNumber, next] ++ rest) =
      (decodeExtensions next rest).map fun decoded =>
        { messageType := messageType
          length := rest.length + 4
          teid := teid.toList
          extensions := decoded.1
          payload := decoded.2 } := by
  match length, hbytes with
  | [l0, l1], _ =>
      rcases toList_four teid with ⟨t0, t1, t2, t3, hteid⟩
      rw [hteid]
      have hbody : (s0 :: s1 :: pduNumber :: next :: rest).length =
          rest.length + 4 := rfl
      have hfine : ¬ ((0x34 : UInt8) &&& 0xf0 ≠ 0x30 ∨
          rest.length + 4 ≠ rest.length + 4) := by
        intro hwrong
        rcases hwrong with hversion | hsize
        · exact hversion rfl
        · exact hsize rfl
      simp only [List.cons_append, List.nil_append, decodeMessage]
      rw [hbody, hlength, if_neg hfine, if_neg (by decide), if_neg (by decide)]
      cases decodeExtensions next rest with
      | none => rfl
      | some decoded => rfl

/-!
## NR user plane and PDCP
-/

structure DlUserData where
  /-- discard blocks, flush and report polling -/
  options : UInt8
  flags : UInt8
  sequenceNumber : Nat
deriving DecidableEq, Repr

def decodeDlUserData : Bytes -> Option DlUserData
  | first :: flags :: n0 :: n1 :: n2 :: _ =>
      if first >>> 4 = 0 then
        some ⟨first &&& 0x0f, flags, number [n0, n1, n2]⟩
      else
        none
  | _ => none

structure PdcpData where
  reserved : UInt8
  sequenceNumber : Nat
  data : Bytes
deriving DecidableEq, Repr

def decodePdcp : Bytes -> Option PdcpData
  | first :: second :: data =>
      if first &&& 0x80 = 0 then
        none
      else
        some ⟨(first >>> 4) &&& 0x07, number [first &&& 0x0f, second], data⟩
  | _ => none

structure DownlinkPdu where
  message : Message
  container : DlUserData
  pdcp : PdcpData
deriving DecidableEq, Repr

def nrRanContainer : UInt8 := 0x84

def decodeDownlink (bytes : Bytes) : Option DownlinkPdu := do
  let message <- decodeMessage bytes
  let extension <- message.extensions.find? fun e => e.type = nrRanContainer
  let container <- decodeDlUserData extension.content
  let pdcp <- decodePdcp message.payload
  some ⟨message, container, pdcp⟩

/-!
## Numbers in network order
-/

theorem number_be16 (n : UInt16) : number (be16 n) = n.toNat := by
  have hlt := n.toNat_lt
  simp [number, be16, Nat.shiftRight_eq_div_pow]
  lia

theorem number_be32_low (n : UInt32) :
    number ((be32 n).drop 1) = n.toNat % 16777216 := by
  have hlt := n.toNat_lt
  simp [number, be32, Nat.shiftRight_eq_div_pow]
  lia

theorem low_byte (n : UInt16) :
    (n &&& 0xff).toUInt8 = UInt8.ofNat (n.toNat % 256) := by
  have hmask : n.toNat % 256 &&& 255 = n.toNat % 256 % 256 :=
    Nat.and_two_pow_sub_one_eq_mod (n.toNat % 256) 8
  apply UInt8.toNat_inj.mp
  simp [hmask]

theorem high_nibble (n : UInt16) :
    ((n &&& 0x0f00) >>> 8).toUInt8 = UInt8.ofNat (n.toNat / 256 % 16) := by
  have hmask : (n.toNat &&& 3840) >>> 8 = n.toNat / 256 % 16 := by
    rw [Nat.shiftRight_and_distrib, Nat.shiftRight_eq_div_pow]
    exact Nat.and_two_pow_sub_one_eq_mod (n.toNat / 2 ^ 8) 4
  apply UInt8.toNat_inj.mp
  simp [hmask]

theorem decodePdcp_counter (n : UInt16) (data : Bytes) :
    decodePdcp
      (((0b10000000 : UInt8) ||| ((n &&& 0x0f00) >>> 8).toUInt8) ::
        (n &&& 0xff).toUInt8 :: data) =
      some ⟨0, n.toNat % 4096, data⟩ := by
  have hfirst : forall high, high < 16 ->
      ((0b10000000 : UInt8) ||| UInt8.ofNat high) &&& 0x80 ≠ 0 ∧
        (((0b10000000 : UInt8) ||| UInt8.ofNat high) >>> 4) &&& 0x07 = 0 ∧
        (((0b10000000 : UInt8) ||| UInt8.ofNat high) &&& 0x0f).toNat =
          high := by
    decide
  rw [low_byte, high_nibble]
  rcases hfirst (n.toNat / 256 % 16) (Nat.mod_lt _ (by lia)) with
    ⟨hdata, hreserved, hhigh⟩
  rw [decodePdcp, if_neg hdata, hreserved]
  congr 2
  simp only [number, List.foldl_cons, List.foldl_nil, hhigh]
  rw [UInt8.toNat_ofNat']
  lia

end F1u
end Foundation
end QCore
