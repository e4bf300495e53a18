import Rumor.Proofs.Record.Size

namespace Rumor.Record

-- A record that fits is read as what was written, whatever stands behind it, if its
-- kind has 16 bits. One that does not fit is not looked into.
theorem round_trip (m : Message) :
    (∀ tail : Bytes, (encode m ++ tail).length ≤ maxSize →
      decode (encode m ++ tail) =
        if 0 ≤ m.kind ∧ m.kind ≤ 65535 then .ok m else .error (.unknownKind m.kind.toInt)) ∧
    (maxSize < (encode m).length → decode (encode m) = .error (.tooLarge (encode m).length maxSize)) := by
  refine ⟨fun tail hsize => ?_, decode_of_maxSize_lt⟩
  rw [decode_encode_append m tail hsize, Kind.ofCode_map]

section Samples

-- Negative hops take ten bytes.
def overdue : Message :=
  { kind := 7, ttl := -1 }

theorem encode_overdue :
    encode overdue = [13, 8, 7, 32, 255, 255, 255, 255, 255, 255, 255, 255, 255, 1] := by
  have hkind : word 7 = 7 := rfl
  have hhops : word (-1) = 18446744073709551615 := rfl
  simp [overdue, encode, body, varintField, bytesField, hkind, hhops, key, tag, wireTypeCode,
    Varint.encode, Utf8.encode]

theorem encode_kind_too_large : encode { kind := 65536 } = [4, 8, 128, 128, 4] := by
  have hkind : word 65536 = 65536 := rfl
  have hhops : word 0 = 0 := rfl
  simp [encode, body, varintField, bytesField, hkind, hhops, key, tag, wireTypeCode, Varint.encode,
    Utf8.encode]

theorem length_encode_bare {payload : Bytes} (h : payload.length = 65530) :
    (encode { payload }).length = 65537 := by
  have hframed {n : Nat} (hlow : 16384 ≤ n) (hhigh : n ≤ 65536) : Varint.framed n = 3 + n := by
    have hleast := Varint.three_le_length_encode hlow
    have hmost := Varint.length_encode_le_three hhigh
    rw [Varint.framed]
    omega
  have hnone : numberRoom (word 0) = 0 ∧ numberRoom 0 = 0 ∧ bytesRoom 0 = 0 := ⟨rfl, rfl, rfl⟩
  have hsender : (Utf8.encode "").length = 0 := rfl
  have hbody : (body { payload }).length = 65534 := by
    rw [length_body, hsender, h]
    simp [hnone, bytesRoom, hframed]
  rw [length_encode, hbody, hframed (by decide) (by decide)]

-- Followed by a byte that belongs to nothing, of a kind that is just not known, and one
-- byte too long.
theorem round_trip_of_samples :
    decode (encode overdue ++ [255]) = .ok overdue ∧
      decode (encode { kind := 65536 }) = .error (.unknownKind 65536) ∧
      decode (encode { payload := List.replicate 65530 0 }) = .error (.tooLarge 65537 maxSize) := by
  have hlength : (encode { payload := List.replicate 65530 0 }).length = 65537 :=
    length_encode_bare List.length_replicate
  refine ⟨?_, ?_, ?_⟩
  · exact (round_trip overdue).1 [255] (by rw [encode_overdue]; decide)
  · rw [← List.append_nil (encode _)]
    exact (round_trip { kind := 65536 }).1 [] (by rw [encode_kind_too_large]; decide)
  · rw [← hlength]
    exact (round_trip { payload := List.replicate 65530 0 }).2 (by rw [hlength]; decide)

end Samples

end Rumor.Record
