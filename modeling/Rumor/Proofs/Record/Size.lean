import Rumor.Proofs.Message
import Rumor.Proofs.Record

namespace Rumor.Record

section Room

variable {m : Message} {field : Field}

-- The room of a field that holds a number, and of one that holds so many bytes.
def numberRoom (value : Nat) : Nat :=
  if value = 0 then 0 else 1 + (Varint.encode value).length

def bytesRoom (length : Nat) : Nat :=
  if length = 0 then 0 else 1 + Varint.framed length

theorem numberRoom_mono {v w : Nat} (h : v ≤ w) : numberRoom v ≤ numberRoom w := by
  have hlength := Varint.length_encode_mono h
  unfold numberRoom
  split
  · exact Nat.zero_le _
  · rw [if_neg (by omega)]
    omega

theorem numberRoom_le (value : Nat) : numberRoom value ≤ 1 + (Varint.encode value).length := by
  unfold numberRoom
  split <;> omega

theorem numberRoom_le_of_lt {k value : Nat} (h : value < Varint.limit (k + 1)) :
    numberRoom value ≤ k + 2 := by
  have hlength := (Varint.length_encode_le_iff k value).mpr h
  have hroom := numberRoom_le value
  omega

theorem numberRoom_le_eleven {value : Nat} (h : value < UInt64.size) : numberRoom value ≤ 11 :=
  numberRoom_le_of_lt (Nat.lt_trans h (by decide))

theorem bytesRoom_le (length : Nat) : bytesRoom length ≤ 1 + Varint.framed length := by
  unfold bytesRoom
  split <;> omega

theorem two_le_numberRoom {value : Nat} (h : value ≠ 0) : 2 ≤ numberRoom value := by
  have hpos := Varint.length_encode_pos value
  rw [numberRoom, if_neg h]
  omega

theorem length_key (field : Field) (wireType : WireType) :
    (key (tag field) wireType).length = 1 := by
  have hcode := wireTypeCode_lt wireType
  have hsmall : 8 * tag field + wireTypeCode wireType < 128 := by
    cases field <;> simp only [tag] <;> omega
  rw [key, Varint.encode_of_lt hsmall, List.length_singleton]

theorem length_varintField (field : Field) (value : Nat) :
    (varintField field value).length = numberRoom value := by
  unfold varintField numberRoom
  split
  · rfl
  · rw [List.length_append, length_key]

theorem length_bytesField (field : Field) (value : Bytes) :
    (bytesField field value).length = bytesRoom value.length := by
  unfold bytesField bytesRoom Varint.framed
  cases value with
  | nil => rfl
  | cons b rest => simp [length_key]

theorem length_body (m : Message) : (body m).length =
    numberRoom (word m.kind) + bytesRoom (Utf8.encode m.sender).length +
    bytesRoom m.payload.length +
      numberRoom (word m.ttl) + numberRoom m.id.toNat + numberRoom m.nonce.toNat := by
  simp only [body, List.length_append, length_varintField, length_bytesField]

theorem length_encode (m : Message) : (encode m).length = Varint.framed (body m).length := by
  simp [encode, Varint.framed]

theorem length_encode_le_maxSize_iff (m : Message) :
    (encode m).length ≤ maxSize ↔ (body m).length ≤ 65533 := by
  rw [length_encode, Varint.framed, maxSize]
  rcases Nat.lt_or_ge (body m).length 16384 with hshort | hlong
  · have hthree := Varint.length_encode_le_three (n := (body m).length) (by omega)
    omega
  · have hthree := Varint.three_le_length_encode hlong
    refine ⟨fun h => by omega, fun h => ?_⟩
    have hprefix := Varint.length_encode_le_three (n := (body m).length) (by omega)
    omega

end Room

section Word

theorem word_of_nonneg {n : Int32} (h : 0 ≤ n.toInt) : (word n : Int) = n.toInt := by
  have hsame : n.toInt64.toInt = n.toInt := Int32.toInt_toInt64 n
  have hcond := BitVec.toInt_eq_toNat_cond n.toInt64.toBitVec
  have hnat : word n = n.toInt64.toBitVec.toNat := rfl
  have hint : n.toInt64.toInt = n.toInt64.toBitVec.toInt := rfl
  have hlt := n.toInt64.toBitVec.isLt
  split at hcond <;> omega

theorem word_ofNat {n : Nat} (h : n < 2147483648) : word (.ofNat n) = n := by
  have hint : (Int32.ofNat n).toInt = n := Int32.toInt_ofNat_of_lt h
  have hword := word_of_nonneg (n := .ofNat n) (by omega)
  omega

theorem kind_nonneg {m : Message} {kind : Kind} (h : m.kind? = some kind) : 0 ≤ m.kind.toInt := by
  have hsome : (Kind.ofCode? m.kind).isSome = true := Option.isSome_iff_exists.mpr ⟨kind, h⟩
  exact Int32.le_iff_toInt_le.mp ((Kind.isSome_ofCode?_iff m.kind).mp hsome).1

theorem toNat_toUInt32_of_nonneg {n : Int32} (h : 0 ≤ n.toInt) : n.toUInt32.toNat = word n := by
  have hword := word_of_nonneg h
  have hcond := BitVec.toInt_eq_toNat_cond n.toBitVec
  have hint : n.toInt = n.toBitVec.toInt := rfl
  have hnat : n.toUInt32.toNat = n.toBitVec.toNat := rfl
  have hlt := n.toBitVec.isLt
  split at hcond <;> omega

-- Only the low bits of a number are kept.
theorem toNat_toUInt32_ofWord (value : Nat) : (ofWord value).toUInt32.toNat ≤ value := by
  rw [low_ofWord]
  exact Nat.mod_le _ _

-- Numbers take up little, so what is written of a message with a short sender and a short
-- payload is not too long.
theorem length_encode_le_maxSize {m : Message}
    (h : (Utf8.encode m.sender).length + m.payload.length ≤ 65000) :
    (encode m).length ≤ maxSize := by
  have hkind := numberRoom_le_eleven (word_lt m.kind)
  have hhops := numberRoom_le_eleven (word_lt m.ttl)
  have hid := numberRoom_le_eleven m.id.toNat_lt
  have hnonce := numberRoom_le_eleven m.nonce.toNat_lt
  have hsender := bytesRoom_le (Utf8.encode m.sender).length
  have hpayload := bytesRoom_le m.payload.length
  have hsenderPrefix :=
    Varint.length_encode_le_three (n := (Utf8.encode m.sender).length) (by omega)
  have hpayloadPrefix := Varint.length_encode_le_three (n := m.payload.length) (by omega)
  rw [Varint.framed] at hsender hpayload
  rw [length_encode_le_maxSize_iff, length_body]
  omega

end Word

section Least

variable {m m' : Message} {field : Field} {wireType : WireType} {input : Input}

-- No letter takes up less than one byte, and its field two more.
def textRoom (text : String) : Nat :=
  if text = "" then 0 else 3

-- What a field of `m` takes up at least in a record that is read as `m`. It may
-- be written in longer forms, or more than once.
def leastRoom (m : Message) : Field → Nat
  | .kind => numberRoom m.kind.toUInt32.toNat
  | .sender => textRoom m.sender
  | .payload => bytesRoom m.payload.length
  | .ttl => numberRoom m.ttl.toUInt32.toNat
  | .id => numberRoom m.id.toNat
  | .nonce => numberRoom m.nonce.toNat

def least (m : Message) : Nat :=
  fields.foldr (leastRoom m · + ·) 0

theorem least_fieldFrom_le (source m : Message) (field : Field) :
    least (fieldFrom source m field) ≤ least m + leastRoom source field := by
  cases field <;> simp only [least, fields, List.foldr_cons, List.foldr_nil, fieldFrom,
    leastRoom] <;> omega

theorem length_le_of_readVarint {n : Nat} {rest : input.Rest}
    (h : readVarint input = .ok (n, rest)) :
    (Varint.encode n).length + rest.val.size ≤ input.size := by
  unfold readVarint at h
  split at h
  · cases h
  · rename_i r hread
    obtain rfl := Except.ok.inj h
    exact Varint.length_le_of_read hread

theorem framed_le_of_readDelimited {bytes : Bytes} {rest : input.Rest}
    (h : readDelimited input = .ok (bytes, rest)) :
    Varint.framed bytes.length + rest.val.size ≤ input.size := by
  unfold readDelimited at h
  split at h
  · cases h
  · rename_i length after hlength
    have hprefix := length_le_of_readVarint hlength
    split at h
    · cases h
    · rename_i first last htake
      obtain ⟨rfl, rfl⟩ := Prod.mk.inj (Except.ok.inj h)
      unfold takeBytes at htake
      split at htake
      · cases htake
      · rename_i r hr
        obtain rfl := Except.ok.inj htake
        obtain ⟨rfl, hsize⟩ := Input.size_of_take hr
        have hlast : (after.tail last).val.size = last.val.size := rfl
        rw [Varint.framed]
        omega

theorem leastRoom_setNumber_le (h : isNumber field = true) (m : Message) (value : Nat) :
    leastRoom (setNumber m value field) field ≤ numberRoom value := by
  cases field with
  | kind => exact numberRoom_mono (toNat_toUInt32_ofWord value)
  | ttl => exact numberRoom_mono (toNat_toUInt32_ofWord value)
  | id => exact numberRoom_mono (by simpa [setNumber] using Nat.mod_le _ _)
  | nonce => exact numberRoom_mono (by simpa [setNumber] using Nat.mod_le _ _)
  | _ => cases h

theorem textRoom_le {bytes : Bytes} {text : String} (h : Utf8.decode bytes = .ok text) :
    textRoom text ≤ 1 + Varint.framed bytes.length := by
  unfold textRoom
  split
  · exact Nat.zero_le _
  · rename_i hne
    have hpos := Varint.length_encode_pos bytes.length
    have hsome : bytes.length ≠ 0 := by
      intro hnil
      rw [List.length_eq_zero_iff] at hnil
      rw [hnil] at h
      exact hne (Except.ok.inj h).symm
    rw [Varint.framed]
    omega

-- What was read into a field needs no more room than was taken, its key included.
theorem exists_source_of_readField {rest : input.Rest}
    (h : readField m field wireType input = .ok (m', rest)) :
    ∃ source, m' = fieldFrom source m field ∧
      leastRoom source field + rest.val.size ≤ 1 + input.size := by
  rcases readField_eq_ok h with ⟨value, hnumber, hread, rfl⟩ | ⟨bytes, hread, htext⟩
  · have hroom := leastRoom_setNumber_le hnumber m value
    have hlength := numberRoom_le value
    have hsize := length_le_of_readVarint hread
    refine ⟨setNumber m value field, ?_, by omega⟩
    cases field <;> rfl
  · have hsize := framed_le_of_readDelimited hread
    rcases htext with ⟨sender, rfl, hdecode, rfl⟩ | ⟨rfl, rfl⟩
    · have hroom := textRoom_le hdecode
      have hleast : leastRoom { m with sender } .sender = textRoom sender := rfl
      exact ⟨{ m with sender }, rfl, by omega⟩
    · have hroom := bytesRoom_le bytes.length
      have hleast : leastRoom { m with payload := bytes } .payload = bytesRoom bytes.length := rfl
      exact ⟨{ m with payload := bytes }, rfl, by omega⟩

theorem least_le_of_readAny {rest : input.Rest} (h : readAny m input = .ok (m', rest)) :
    least m' + rest.val.size ≤ least m + input.size := by
  unfold readAny at h
  split at h
  · cases h
  · rename_i key after hkey
    have hafter := after.property
    split at h
    · split at h
      · cases h
      · rename_i read last hread
        obtain ⟨rfl, rfl⟩ := Prod.mk.inj (Except.ok.inj h)
        obtain ⟨source, rfl, hroom⟩ := exists_source_of_readField hread
        have hleast := least_fieldFrom_le source m ‹Field›
        have hlast : (after.next last).val.size = last.val.size := rfl
        omega
    · split at h
      · cases h
      · rename_i last hskip
        obtain ⟨rfl, rfl⟩ := Prod.mk.inj (Except.ok.inj h)
        have hlast : (after.tail last).val.size ≤ after.val.size := last.property
        omega

theorem least_le_of_readFields {after : Nat} (h : readFields after m input = .ok m') :
    least m' + after ≤ least m + input.size := by
  fun_induction readFields after m input with
  | case1 m input hmore failure hread => cases h
  | case2 m input hmore next rest hread ih =>
      have hstep := least_le_of_readAny hread
      have hrest := ih h
      omega
  | case3 m input hmore hend =>
      obtain rfl := Except.ok.inj h
      omega
  | case4 m input hmore hend => cases h

theorem framed_least_le_of_read (h : read input = .ok m) :
    Varint.framed (least m) ≤ input.size := by
  unfold read at h
  split at h
  · cases h
  · rename_i length rest hlength
    have hprefix := length_le_of_readVarint hlength
    split at h
    · cases h
    · rename_i hmore
      have hfields := least_le_of_readFields h
      have hnone : least {} = 0 := rfl
      have hmono := Varint.framed_mono (show least m ≤ length by omega)
      have hframed : Varint.framed length = (Varint.encode length).length + length := rfl
      omega

-- No record is shorter than what it is read as takes up at least.
theorem framed_least_le_of_decode {bytes : Bytes} (h : decode bytes = .ok m) :
    Varint.framed (least m) ≤ bytes.length := by
  obtain ⟨_, hread, _⟩ := decode_eq_ok_iff.mp h
  exact framed_least_le_of_read hread

end Least

section Bare

variable {m : Message} {bytes : Bytes}

-- A payload and nothing else, longer than a frame has room for. No record that is
-- read carries a longer one.
structure IsBare (m : Message) : Prop where
  payload_only : m = { payload := m.payload }
  length : m.payload.length = 65528 ∨ m.payload.length = 65529

theorem eq_zero_of_numberRoom_le {value : Nat} (h : numberRoom value ≤ 1) : value = 0 := by
  rcases Nat.eq_zero_or_pos value with hzero | hpos
  · exact hzero
  · have htwo := two_le_numberRoom (Nat.pos_iff_ne_zero.mp hpos)
    omega

theorem eq_zero_of_lowRoom_le {n : Int32} (h : numberRoom n.toUInt32.toNat ≤ 1) : n = 0 := by
  have hzero : n.toUInt32 = 0 := UInt32.toNat_inj.mp (eq_zero_of_numberRoom_le h)
  rw [← n.toInt32_toUInt32, hzero]
  rfl

-- One byte is too little for a field that is there.
theorem fieldFrom_of_leastRoom_le {source : Message} {field : Field}
    (h : leastRoom source field ≤ 1) (m : Message) :
    fieldFrom source m field = fieldFrom {} m field := by
  cases field with
  | kind => rw [fieldFrom, eq_zero_of_lowRoom_le h, fieldFrom]
  | ttl => rw [fieldFrom, eq_zero_of_lowRoom_le h, fieldFrom]
  | id =>
      rw [fieldFrom, show source.id = 0 from UInt64.toNat_inj.mp (eq_zero_of_numberRoom_le h), fieldFrom]
  | nonce =>
      rw [fieldFrom, show source.nonce = 0 from UInt64.toNat_inj.mp (eq_zero_of_numberRoom_le h), fieldFrom]
  | sender =>
      by_cases hnone : source.sender = ""
      · rw [fieldFrom, hnone, fieldFrom]
      · rw [leastRoom, textRoom, if_neg hnone] at h
        omega
  | payload =>
      by_cases hnone : source.payload.length = 0
      · rw [fieldFrom, List.length_eq_zero_iff.mp hnone, fieldFrom]
      · rw [leastRoom, bytesRoom, if_neg hnone, Varint.framed] at h
        omega

theorem leastRoom_add_payload_le {field : Field} (h : field ≠ .payload) (m : Message) :
    leastRoom m field + leastRoom m .payload ≤ least m := by
  cases field <;> simp only [least, fields, List.foldr_cons, List.foldr_nil] <;>
    first | omega | exact absurd rfl h

-- Such a payload leaves no room for another field.
theorem isBare_of_decode (hdecode : decode bytes = .ok m) (hlong : 65528 ≤ m.payload.length) :
    IsBare m := by
  obtain ⟨hsize, _, _⟩ := decode_eq_ok_iff.mp hdecode
  have hmax : maxSize = 65536 := rfl
  have hpayload : 4 + m.payload.length ≤ leastRoom m .payload := by
    have hprefix := Varint.three_le_length_encode (n := m.payload.length) (by omega)
    rw [leastRoom, bytesRoom, if_neg (by omega), Varint.framed]
    omega
  have hleast : leastRoom m .payload ≤ least m := by
    have hall := leastRoom_add_payload_le (show Field.kind ≠ .payload by decide) m
    omega
  have hprefix := Varint.three_le_length_encode (n := least m) (by omega)
  have hframed := framed_least_le_of_decode hdecode
  rw [Varint.framed] at hframed
  have hrest (field : Field) (hother : field ≠ .payload) (a : Message) :
      fieldFrom m a field = fieldFrom {} a field := by
    have hall := leastRoom_add_payload_le hother m
    exact fieldFrom_of_leastRoom_le (by omega) a
  refine ⟨?_, by omega⟩
  calc m = fields.foldl (fieldFrom m) {} := (foldl_fieldFrom m {}).symm
    _ = fieldFrom m {} .payload := by
      simp only [fields, List.foldl_cons, List.foldl_nil, hrest, ne_eq, reduceCtorEq,
        not_false_eq_true]
      rfl

end Bare

end Rumor.Record
