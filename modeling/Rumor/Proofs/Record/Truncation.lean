import Rumor.Proofs.Inbound
import Rumor.Proofs.Record.RoundTrip

-- Records of which only the first bytes are there.
namespace Rumor

namespace Record

variable {m m' : Message} {size : Nat}

-- The length in front is not there in full, has more bits than are read, or announces more
-- than what comes.
def cutFault (m : Message) (size : Nat) : RecordFault :=
  if (Varint.encode (body m).length).length ≤ size ∧
    (body m).length < UInt64.size then .underflow else .varint

theorem take_encode (m : Message) (size : Nat) : (encode m).take size =
    (Varint.encode (body m).length).take size ++
    (body m).take (size - (Varint.encode (body m).length).length) := by
  rw [encode, List.take_append]

theorem readVarint_of_none {input : Input} (h : Varint.read input = none) :
    readVarint input = .error .varint := by
  rw [readVarint, h]

theorem read_take_encode (h : size < (encode m).length) :
    read (.ofBytes ((encode m).take size)) = .error (none, cutFault m size) := by
  have hbytes : (Input.ofBytes ((encode m).take size)).bytes = _ := take_encode m size
  rw [encode, List.length_append] at h
  -- the cut is in the length or behind it, where the length may have more bits than are read
  by_cases hfront : (Varint.encode (body m).length).length ≤ size
  · rw [List.take_of_length_le hfront] at hbytes
    by_cases hlength : (body m).length < UInt64.size
    · obtain ⟨rest, hread, hrest⟩ := exists_readVarint (Varint.written_encode hlength) hbytes
      have hshort : rest.val.size < (body m).length := by
        rw [rest.val.size_eq, hrest, List.length_take]
        omega
      rw [read, hread, cutFault, if_pos ⟨hfront, hlength⟩]
      exact if_pos hshort
    · have hnone := readVarint_of_none (Varint.read_of_too_large (Nat.not_lt.mp hlength) hbytes)
      rw [read, hnone, cutFault, if_neg fun hall => hlength hall.2]
  · rw [Nat.sub_eq_zero_of_le (Nat.le_of_not_le hfront), List.take_zero, List.append_nil] at hbytes
    have hnone := readVarint_of_none (Varint.read_of_cut (Nat.lt_of_not_le hfront) hbytes)
    rw [read, hnone, cutFault, if_neg fun hall => hfront hall.1]

theorem decode_take_encode (h : size < (encode m).length) : decode ((encode m).take size) =
    .error (if size ≤ maxSize then .undecodable (.record none (cutFault m size))
      else .tooLarge size maxSize) := by
  have hlength : ((encode m).take size).length = size := List.length_take_of_le (Nat.le_of_lt h)
  by_cases hfits : size ≤ maxSize
  · rw [if_pos hfits]
    exact decode_of_read_error (hlength.symm ▸ hfits) (read_take_encode h)
  · rw [if_neg hfits, decode_of_maxSize_lt (hlength.symm ▸ Nat.lt_of_not_le hfits), hlength]

-- The same length stands in front of both.
theorem encode_eq_of_prefix (h : encode m' <+: encode m) : encode m' = encode m := by
  obtain ⟨rest, hrest⟩ := h
  have hjoin : Varint.encode (body m').length ++ (body m' ++ rest) =
      Varint.encode (body m).length ++ body m := by
    rw [← List.append_assoc]
    exact hrest
  obtain ⟨hlength, hfront⟩ := (Varint.form_encode _).unique (Varint.form_encode _) hjoin
  rw [hfront, List.append_cancel_left_eq] at hjoin
  have hnone : rest.length = 0 := by
    have hsize := congrArg List.length hjoin
    rw [List.length_append] at hsize
    omega
  rw [← hrest, List.length_eq_zero_iff.mp hnone, List.append_nil]

end Record

open Record

theorem Arrival.message_of_cut {m : Message} {size : Nat} (hsize : size < (encode m).length)
    (a : Arrival) (timeout : Nat) (hall : a.all = (encode m).take size) :
    ∃ error, a.message timeout = .error error := by
  by_cases hover : a.IsOverBefore timeout
  · by_cases hfits : a.all.length ≤ maxSize
    · rw [message_of_isOverBefore hover hfits, hall, decode_take_encode hsize]
      exact ⟨_, rfl⟩
    · exact ⟨_, message_of_long hover hfits⟩
  · exact ⟨_, message_of_late hover⟩

-- A record that is cut short anywhere is refused, so none is another's beginning, and a
-- connection that breaks off brings no message, whenever and in whatever pieces it brings
-- what it brings.
theorem Record.cut_refused (m : Message) :
    (∀ size < (encode m).length, decode ((encode m).take size) =
      .error (if size ≤ maxSize then .undecodable (.record none (cutFault m size))
        else .tooLarge size maxSize)) ∧
    (∀ m', encode m' <+: encode m → encode m' = encode m) ∧
    ∀ size < (encode m).length, ∀ (a : Arrival) (timeout : Nat), a.all = (encode m).take size →
      ∃ error, a.message timeout = .error error :=
  ⟨fun _ => decode_take_encode, fun _ => encode_eq_of_prefix,
    fun _ hsize a timeout => a.message_of_cut hsize timeout⟩

theorem Record.encode_brief : encode { kind := 7 } = [2, 8, 7] := by
  have hkind : word 7 = 7 := rfl
  have hhops : word 0 = 0 := rfl
  simp [encode, body, varintField, bytesField, hkind, hhops, key, tag, wireTypeCode, Varint.encode,
    Utf8.encode]

-- Behind another length, what is left of the body would be a message of its own.
theorem Record.overdue_cut_refused :
    3 < (encode overdue).length ∧ decode [2, 8, 7] = .ok { kind := 7 } ∧
    decode [13, 8, 7] = .error (.undecodable (.record none .underflow)) ∧
    decode [] = .error (.undecodable (.record none .varint)) ∧
    ∃ error, (⟨[⟨1, [13]⟩, ⟨2, [8, 7]⟩], true⟩ : Arrival).message 10 = .error error := by
  have hbody : (body overdue).length = 13 := by
    have hwords : word 7 = 7 ∧ word (-1) = 18446744073709551615 := ⟨rfl, rfl⟩
    simp [overdue, body, varintField, bytesField, hwords, key, tag, wireTypeCode, Varint.encode,
      Utf8.encode]
  have hfault : cutFault overdue 3 = .underflow ∧ cutFault overdue 0 = .varint := by
    have hroom : 13 < UInt64.size := by decide
    simp [cutFault, hbody, hroom, Varint.encode]
  have hlength : 3 < (encode overdue).length := by
    rw [encode_overdue]
    decide
  have hbrief : decode [2, 8, 7] = .ok { kind := 7 } := by
    rw [← encode_brief]
    exact decode_encode_of_kind (show Message.kind? _ = some (.data 7) from rfl)
      (by rw [encode_brief]; decide)
  obtain ⟨hcut, _, harrival⟩ := cut_refused overdue
  have hfirst := hcut 3 hlength
  have hnone := hcut 0 (Nat.lt_trans (by decide) hlength)
  rw [encode_overdue, hfault.1] at hfirst
  rw [hfault.2] at hnone
  refine ⟨hlength, hbrief, hfirst, hnone, harrival 3 hlength _ 10 ?_⟩
  rw [encode_overdue]
  rfl

end Rumor
