import Rumor.Frame
import Rumor.Proofs.Bytes

namespace Rumor.Frame

variable {f : Frame} {bytes rest : Bytes}

theorem encode_eq_ok_iff : f.encode = .ok bytes ↔
    f.size ≤ maxSize ∧ bytes = Bytes.ofWord (.ofNat f.size) ++ Bytes.ofWord f.code ++ f.body := by
  unfold encode
  by_cases hsize : f.size ≤ maxSize
  · rw [if_neg (Nat.not_lt.mpr hsize)]
    simp [hsize, eq_comm]
  · rw [if_pos (Nat.lt_of_not_le hsize)]
    simp [hsize]

theorem size_announce (ttl reserved : UInt8) (datatype : UInt16) (payload : Bytes) :
    (announce ttl reserved datatype payload).size = 8 + payload.length := by
  simp [size, headerSize, body, Bytes.ofWord]
  omega

theorem size_notification (id datatype : UInt16) (payload : Bytes) :
    (notification id datatype payload).size = 8 + payload.length := by
  simp [size, headerSize, body, Bytes.ofWord]
  omega

theorem ofBody_body (f : Frame) : ofBody f.code f.body = .ok f := by
  cases f <;> simp [ofBody, code, body, Bytes.ofWord, Bytes.word_ofWord]

theorem cut?_append (first rest : Bytes) :
    cut? first.length (first ++ rest) = some (first, rest) := by
  simp [cut?]

-- Whatever stands behind a frame, the frame is read back.
theorem front_of_encode (h : f.encode = .ok bytes) (rest : Bytes) :
    front (bytes ++ rest) = .frame f rest := by
  obtain ⟨hsize, rfl⟩ := encode_eq_ok_iff.mp h
  have hword : (UInt16.ofNat f.size).toNat = f.size := by
    rw [UInt16.toNat_ofNat']
    exact Nat.mod_eq_of_lt (Nat.lt_succ_of_le hsize)
  have hbody : f.size - headerSize = f.body.length := Nat.add_sub_cancel_left _ _
  have hheader : ¬f.size < headerSize := Nat.not_lt.mpr (Nat.le_add_right _ _)
  simp only [Bytes.ofWord, List.cons_append, List.nil_append, front, Bytes.word_ofWord, hword]
  rw [if_neg hheader, hbody, cut?_append]
  simp only [ofBody_body]

end Rumor.Frame
