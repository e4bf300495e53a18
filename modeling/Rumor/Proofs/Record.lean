import Rumor.Proofs.Record.Grammar

namespace Rumor.Record

section Word

theorem ofWord_word (n : Int32) : ofWord (word n) = n := by
  have hback : (n.toBitVec.signExtend 64).setWidth 32 = n.toBitVec := by
    apply BitVec.eq_of_getLsbD_eq
    intro i hi
    simp only [BitVec.getLsbD_setWidth, BitVec.getLsbD_signExtend, hi]
    simp
    omega
  apply Int32.toBitVec_inj.mp
  simpa [ofWord, word] using hback

theorem word_lt (n : Int32) : word n < UInt64.size :=
  n.toInt64.toUInt64.toNat_lt

end Word

section Written

variable {m : Message} {field : Field}

def fieldNumber (m : Message) : Field → Nat
  | .kind => word m.kind
  | .ttl => word m.ttl
  | .id => m.id.toNat
  | .nonce => m.nonce.toNat
  | .sender | .payload => 0

def fieldBytes (m : Message) : Field → Bytes
  | .sender => Utf8.encode m.sender
  | .payload => m.payload
  | _ => []

-- What stands in a record for one field of `m`.
def written (m : Message) (field : Field) : Bytes :=
  if isNumber field then varintField field (fieldNumber m field) else bytesField field
    (fieldBytes m field)

theorem body_eq (m : Message) : body m = fields.flatMap (written m) := by
  simp [body, fields, written, isNumber, fieldNumber, fieldBytes]

theorem length_written_le (m : Message) (field : Field) :
    (written m field).length ≤ (body m).length := by
  rw [body_eq]
  cases field <;> simp [fields] <;> omega

theorem fieldNumber_lt (m : Message) (field : Field) : fieldNumber m field < UInt64.size := by
  cases field with
  | kind => exact word_lt m.kind
  | ttl => exact word_lt m.ttl
  | id => exact m.id.toNat_lt
  | nonce => exact m.nonce.toNat_lt
  | _ => exact (by decide : 0 < UInt64.size)

theorem varintField_eq_nil_iff (field : Field) (value : Nat) :
    varintField field value = [] ↔ value = 0 := by
  have hpos := Varint.length_encode_pos value
  by_cases h : value = 0
  · simp [varintField, h]
  · rw [varintField, if_neg h, ← List.length_eq_zero_iff, List.length_append]
    omega

theorem bytesField_eq_nil_iff (field : Field) (value : Bytes) :
    bytesField field value = [] ↔ value = [] := by
  cases value <;> simp [bytesField]

-- The entry that stands for a field of `m`, if one does.
def entryOf (m : Message) : Field → Entry
  | .sender => .sender m.sender
  | .payload => .payload m.payload
  | field => .number field (fieldNumber m field)

def entriesOf (m : Message) (todo : List Field) : List Entry :=
  (todo.filter (written m · ≠ [])).map (entryOf m)

theorem field?_entryOf (m : Message) (field : Field) : (entryOf m field).field? = some field := by
  cases field <;> rfl

theorem tells_entryOf (m : Message) (field : Field) : (entryOf m field).Tells m := by
  have hlow (n : Int32) : word n % 4294967296 = n.toUInt32.toNat := by
    rw [← low_ofWord, ofWord_word]
  cases field with
  | kind => exact hlow m.kind
  | ttl => exact hlow m.ttl
  | _ => rfl

-- A field that is left out is as it is in an empty message.
theorem fieldFrom_of_written_eq_nil (h : written m field = []) : fieldFrom {} m field = m := by
  have hshort (n : Int32) (hword : word n = 0) : 0 = n := by
    rw [← ofWord_word n, hword]
    rfl
  have hlong (n : UInt64) (hword : n.toNat = (0 : UInt64).toNat) : 0 = n :=
    (UInt64.toNat_inj.mp hword).symm
  cases field with
  | kind =>
      have hnone : word m.kind = 0 := (varintField_eq_nil_iff .kind _).mp h
      exact congrArg (fun kind => { m with kind }) (hshort m.kind hnone)
  | ttl =>
      have hnone : word m.ttl = 0 := (varintField_eq_nil_iff .ttl _).mp h
      exact congrArg (fun ttl => { m with ttl }) (hshort m.ttl hnone)
  | id =>
      have hnone : m.id.toNat = 0 := (varintField_eq_nil_iff .id _).mp h
      exact congrArg (fun id => { m with id }) (hlong m.id hnone)
  | nonce =>
      have hnone : m.nonce.toNat = 0 := (varintField_eq_nil_iff .nonce _).mp h
      exact congrArg (fun nonce => { m with nonce }) (hlong m.nonce hnone)
  | sender =>
      have hnone : Utf8.encode m.sender = [] := (bytesField_eq_nil_iff .sender _).mp h
      exact congrArg (fun sender => { m with sender })
        ((Utf8.encode_eq_nil_iff m.sender).mp hnone).symm
  | payload =>
      have hnone : m.payload = [] := (bytesField_eq_nil_iff .payload _).mp h
      exact congrArg (fun payload => { m with payload }) hnone.symm

-- No field stands there twice, so the last entry of one is its only one.
theorem lastOf_entriesOf (m : Message) (field : Field) :
    lastOf field (entriesOf m fields) =
      (([field].filter (written m · ≠ [])).map (entryOf m)).getLast? := by
  have hone : fields.filter (fun other => other = field) = [field] := by cases field <;> rfl
  rw [lastOf, entriesOf, List.filter_map, ← hone, List.filter_filter, List.filter_filter]
  congr 2
  apply List.filter_congr
  intro other _
  simp only [Function.comp_apply, field?_entryOf, Option.some.injEq]
  exact Bool.and_comm _ _

theorem tell_entriesOf (m : Message) : Tell (entriesOf m fields) m := by
  intro field
  rw [lastOf_entriesOf]
  by_cases hnone : written m field = []
  · rw [List.filter_cons_of_neg (by simpa using hnone)]
    exact fieldFrom_of_written_eq_nil hnone
  · rw [List.filter_cons_of_pos (by simpa using hnone)]
    exact tells_entryOf m field

theorem key_written (field : Field) (wireType : WireType) :
    Key.Written ⟨tag field, wireType⟩ (key (tag field) wireType) where
  tag_pos := by cases field <;> exact Nat.succ_pos _
  tag_lt := by cases field <;> simp [tag]
  form := by
    apply Varint.written_encode
    cases field <;> cases wireType <;> decide

theorem entryOf_written (hlength : (written m field).length < UInt64.size)
    (hsome : written m field ≠ []) : (entryOf m field).Written (written m field) := by
  by_cases hnumber : isNumber field = true
  · have hentry : entryOf m field = .number field (fieldNumber m field) := by
      cases field <;> first | rfl | cases hnumber
    rw [written, if_pos hnumber] at hsome ⊢
    rw [ne_eq, varintField_eq_nil_iff] at hsome
    rw [varintField, if_neg hsome, hentry]
    exact .number hnumber (key_written field .varint)
      (Varint.written_encode (fieldNumber_lt m field))
  · rw [written, if_neg hnumber] at hsome hlength ⊢
    rw [ne_eq, bytesField_eq_nil_iff] at hsome
    rw [bytesField, if_neg (by simpa using hsome), List.append_assoc] at hlength ⊢
    have hform :
        Varint.Written (fieldBytes m field).length (Varint.encode (fieldBytes m field).length) := by
      apply Varint.written_encode
      simp only [List.length_append] at hlength
      omega
    cases field with
    | sender => exact .sender (key_written .sender .delimited) hform
    | payload => exact .payload (key_written .payload .delimited) hform
    | _ => exact absurd rfl hnumber

theorem spells_flatMap (todo : List Field)
    (hlength : ∀ field ∈ todo, (written m field).length < UInt64.size) :
    Spells (entriesOf m todo) (todo.flatMap (written m)) := by
  induction todo with
  | nil => exact .nil
  | cons field rest ih =>
      obtain ⟨hfirst, hrest⟩ := List.forall_mem_cons.mp hlength
      rw [List.flatMap_cons, entriesOf]
      by_cases hnone : written m field = []
      · rw [List.filter_cons_of_neg (by simpa using hnone), hnone]
        exact ih hrest
      · rw [List.filter_cons_of_pos (by simpa using hnone)]
        exact .cons (entryOf_written hfirst hnone) (ih hrest)

-- What is written is one of the forms that are read.
theorem spells_body (h : (body m).length < UInt64.size) : Spells (entriesOf m fields) (body m) := by
  rw [body_eq]
  exact spells_flatMap fields fun field _ => Nat.lt_of_le_of_lt (length_written_le m field) h

end Written

section Read

variable {m : Message} {input : Input} {bytes tail : Bytes}

theorem decode_of_maxSize_lt (h : maxSize < bytes.length) :
    decode bytes = .error (.tooLarge bytes.length maxSize) :=
  if_pos h

theorem decode_of_read (hfits : bytes.length ≤ maxSize) (h : read (.ofBytes bytes) = .ok m) :
    decode bytes = (Kind.ofCode m.kind).map fun _ => m := by
  have hsize : ¬maxSize < (Input.ofBytes bytes).size := Nat.not_lt.mpr hfits
  simp only [decode, if_neg hsize, h]
  cases Kind.ofCode m.kind <;> rfl

theorem decode_of_read_error {field : Option Field} {fault : RecordFault}
    (hfits : bytes.length ≤ maxSize) (h : read (.ofBytes bytes) = .error (field, fault)) :
    decode bytes = .error (.undecodable (.record field fault)) := by
  have hsize : ¬maxSize < (Input.ofBytes bytes).size := Nat.not_lt.mpr hfits
  simp only [decode, if_neg hsize, h]

theorem read_encode (hlength : (body m).length < UInt64.size)
    (hinput : input.bytes = encode m ++ tail) : read input = .ok m := by
  rw [encode, List.append_assoc] at hinput
  rw [(spells_body hlength).read (Varint.written_encode hlength) hinput,
    (tell_entriesOf m).foldl_store]

-- The kind is all that can be wrong with a record that was written and fits.
theorem decode_encode_append (m : Message) (tail : Bytes)
    (hsize : (encode m ++ tail).length ≤ maxSize) :
    decode (encode m ++ tail) = (Kind.ofCode m.kind).map fun _ => m := by
  have hlength : (body m).length < UInt64.size := by
    have hmax : maxSize < UInt64.size := by decide
    simp only [encode, List.length_append] at hsize
    omega
  exact decode_of_read hsize (read_encode hlength rfl)

theorem decode_encode (hsize : (encode m).length ≤ maxSize) :
    decode (encode m) = (Kind.ofCode m.kind).map fun _ => m := by
  have h := decode_encode_append m []
  rw [List.append_nil] at h
  exact h hsize

theorem decode_encode_of_kind {kind : Kind} (hkind : m.kind? = some kind)
    (hsize : (encode m).length ≤ maxSize) : decode (encode m) = .ok m := by
  have hcode : Kind.ofCode m.kind = .ok kind := by
    rw [Kind.ofCode, show Kind.ofCode? m.kind = some kind from hkind]
  rw [decode_encode hsize, hcode]
  rfl

end Read

section Inversion

variable {m m' : Message} {field : Field} {wireType : WireType} {input : Input}

theorem wireType_of_readField {result : Message × input.Rest}
    (h : readField m field wireType input = .ok result) :
    wireType = if isNumber field then .varint else .delimited := by
  cases field <;> simp only [readField] at h <;> split at h <;> first | assumption | cases h

-- A number is read from a varint, bytes from what a length stands in front of.
theorem readField_eq_ok {rest : input.Rest}
    (h : readField m field wireType input = .ok (m', rest)) :
    (∃ value, isNumber field = true ∧ readVarint input = .ok (value, rest) ∧ m' = setNumber m value field) ∨
      ∃ bytes, readDelimited input = .ok (bytes, rest) ∧
        ((∃ sender, field = .sender ∧ Utf8.decode bytes = .ok sender ∧ m' = { m with sender }) ∨
          field = .payload ∧ m' = { m with payload := bytes }) := by
  have htype := wireType_of_readField h
  by_cases hnumber : isNumber field = true
  · rw [if_pos hnumber] at htype
    rw [htype, readField_number hnumber] at h
    cases hread : readVarint input with
    | error fault => simp [hread, Except.map] at h
    | ok r =>
        obtain ⟨value, after⟩ := r
        simp only [hread, Except.map, Except.ok.injEq, Prod.mk.injEq] at h
        obtain ⟨rfl, rfl⟩ := h
        exact Or.inl ⟨value, hnumber, rfl, rfl⟩
  · rw [if_neg hnumber] at htype
    subst htype
    cases hread : readDelimited input with
    | error fault => cases field <;> simp [readField, hread] at h
    | ok r =>
        obtain ⟨bytes, after⟩ := r
        refine Or.inr ⟨bytes, ?_⟩
        cases field with
        | sender =>
            simp only [readField, hread, if_true] at h
            cases hdecode : Utf8.decode bytes with
            | error fault => simp [hdecode, Except.map] at h
            | ok sender =>
                simp only [hdecode, Except.map, Except.ok.injEq, Prod.mk.injEq] at h
                obtain ⟨rfl, rfl⟩ := h
                exact ⟨rfl, Or.inl ⟨sender, rfl, rfl, rfl⟩⟩
        | payload =>
            simp only [readField, hread, if_true, Except.map, Except.ok.injEq, Prod.mk.injEq] at h
            obtain ⟨rfl, rfl⟩ := h
            exact ⟨rfl, Or.inr ⟨rfl, rfl⟩⟩
        | _ => exact absurd rfl hnumber

theorem decode_eq_ok_iff {bytes : Bytes} : decode bytes = .ok m ↔
    bytes.length ≤ maxSize ∧ read (.ofBytes bytes) = .ok m ∧ ∃ kind, m.kind? = some kind := by
  by_cases hfits : bytes.length ≤ maxSize
  · cases hread : read (.ofBytes bytes) with
    | error failure => simp [decode_of_read_error hfits hread]
    | ok read =>
        have hok : Kind.ofCode? read.kind = read.kind? := rfl
        rw [decode_of_read hfits hread]
        cases hkind : read.kind? <;> simp [Kind.ofCode, hok, hkind, hfits, Except.map] <;> grind
  · simp [hfits, decode_of_maxSize_lt (Nat.lt_of_not_le hfits)]

end Inversion

end Rumor.Record
