import Rumor.Proofs.Message
import Rumor.Proofs.Record

-- A message is read from each of its forms.
namespace Rumor.Record

-- In which order the fields stand, how often, in how many bytes their numbers and lengths are
-- written and what else stands between them makes no difference.
theorem decode_spelled {m : Message} {entries : List Entry} {length body : Bytes}
    (hkind : 0 ≤ m.kind ∧ m.kind ≤ 65535) (hspells : Spells entries body) (htell : Tell entries m)
    (hlength : Varint.Written body.length length)
    (hsize : (length ++ body).length ≤ maxSize) : decode (length ++ body) = .ok m := by
  have hinput : (Input.ofBytes (length ++ body)).bytes = length ++ (body ++ []) := by
    rw [List.append_nil]
    rfl
  rw [decode_eq_ok_iff, hspells.read hlength hinput, htell.foldl_store]
  exact ⟨hsize, rfl, Option.isSome_iff_exists.mp ((Kind.isSome_ofCode?_iff m.kind).mpr hkind)⟩

section Sample

theorem written_byte {b : UInt8} (h : b < 128) : Varint.Written b.toNat [b] where
  form := .last h
  length_le := Nat.le_add_left 1 9
  lt := Nat.lt_trans b.toNat_lt (by decide)

theorem key_byte {number : Nat} {wireType : WireType} {b : UInt8} (hnumber : 0 < number)
    (hb : b < 128) (hvalue : b.toNat = 8 * number + wireTypeCode wireType) :
    Key.Written ⟨number, wireType⟩ [b] where
  tag_pos := hnumber
  tag_lt := by
    have hlt : b.toNat < 128 := UInt8.lt_iff_toNat_lt.mp hb
    show number < 536870912
    omega
  form := hvalue ▸ written_byte hb

-- A length in two bytes, where one would do; an unknown group, in which a known tag stands
-- before a value of another type; hops, which are said again at the end with a bit past the
-- 32 that count; and a kind with a key in two bytes.
theorem scrambled_decoded :
    decode [144, 0, 59, 10, 1, 5, 60, 32, 9, 136, 0, 7, 32, 131, 128, 128, 128, 16] =
      .ok { kind := 7, ttl := 3 } := by
  have hone : Varint.Written 1 [1] := written_byte (b := 1) (by decide)
  have hseven : Varint.Written 7 [7] := written_byte (b := 7) (by decide)
  have hnine : Varint.Written 9 [9] := written_byte (b := 9) (by decide)
  have hempty : Varint.Form 0 [0] := .last (b := 0) (by decide)
  have hlength : Varint.Written 16 [144, 0] :=
    ⟨.more (b := 144) (by decide) hempty, by decide, by decide⟩
  have hkindKey : Key.Written ⟨tag .kind, .varint⟩ [136, 0] :=
    ⟨by decide, by decide, .more (b := 136) (by decide) hempty, by decide, by decide⟩
  have hbit : Varint.Form 2048 [128, 16] :=
    .more (b := 128) (by decide) (.last (b := 16) (by decide))
  have hhigh : Varint.Form 33554432 [128, 128, 128, 16] :=
    .more (b := 128) (by decide) (.more (b := 128) (by decide) hbit)
  have hlate : Varint.Written 4294967299 [131, 128, 128, 128, 16] :=
    ⟨.more (b := 131) (by decide) hhigh, by decide, by decide⟩
  have hhopsKey : Key.Written ⟨tag .ttl, .varint⟩ [32] := key_byte (by decide) (by decide) rfl
  have hopened : Key.Written ⟨7, .startGroup⟩ [59] := key_byte (by decide) (by decide) rfl
  have hclosed : Key.Written ⟨7, .endGroup⟩ [60] := key_byte (by decide) (by decide) rfl
  have hinnerKey : Key.Written ⟨1, .delimited⟩ [10] := key_byte (by decide) (by decide) rfl
  have hvalue : Plain .delimited ([1] ++ [5]) := .delimited hone
  have hinner : Inside 1 [10, 1, 5] := .plain (by decide) hinnerKey hvalue .nil
  have hspells : Spells [.unknown, .number .ttl 9, .number .kind 7, .number .ttl 4294967299]
      [59, 10, 1, 5, 60, 32, 9, 136, 0, 7, 32, 131, 128, 128, 128, 16] :=
    .cons (.group (by decide) hopened hinner hclosed) (.cons (.number rfl hhopsKey hnine)
      (.cons (.number rfl hkindKey hseven) (.cons (.number rfl hhopsKey hlate) .nil)))
  have htell : Tell [.unknown, .number .ttl 9, .number .kind 7, .number .ttl 4294967299]
      { kind := 7, ttl := 3 } := by
    intro field
    cases field <;> rfl
  exact decode_spelled (by decide) hspells htell hlength (by decide)

end Sample

end Rumor.Record
