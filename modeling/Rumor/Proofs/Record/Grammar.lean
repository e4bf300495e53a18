import Mathlib.Data.List.Induction
import Rumor.Proofs.Utf8
import Rumor.Proofs.Varint
import Rumor.Record

-- Records in every form in which they are read, not only in the one in which they are written.
namespace Rumor.Record

section Fields

-- Two of the fields hold bytes, the others a number.
def isNumber : Field → Bool
  | .sender | .payload => false
  | _ => true

def setNumber (m : Message) (value : Nat) : Field → Message
  | .kind => { m with kind := ofWord value }
  | .ttl => { m with ttl := ofWord value }
  | .id => { m with id := .ofNat value }
  | .nonce => { m with nonce := .ofNat value }
  | .sender | .payload => m

-- `m` with one field of `source`.
def fieldFrom (source m : Message) : Field → Message
  | .kind => { m with kind := source.kind }
  | .sender => { m with sender := source.sender }
  | .payload => { m with payload := source.payload }
  | .ttl => { m with ttl := source.ttl }
  | .id => { m with id := source.id }
  | .nonce => { m with nonce := source.nonce }

def fields : List Field :=
  [.kind, .sender, .payload, .ttl, .id, .nonce]

theorem foldl_fieldFrom (source m : Message) : fields.foldl (fieldFrom source) m = source := rfl

theorem eq_of_fieldFrom {source m : Message} (h : ∀ field, fieldFrom source m field = m) :
    m = source := by
  have hsame : fields.foldl (fieldFrom source) m = m := by simp [fields, h]
  exact hsame.symm.trans (foldl_fieldFrom source m)

-- Of a number that fills more than 32 bits the low ones are taken.
theorem low_ofWord (value : Nat) : (ofWord value).toUInt32.toNat = value % 4294967296 := by
  rw [ofWord, UInt32.toUInt32_toInt32, UInt32.toNat_ofNat']

theorem ofWord_eq_of_low {value : Nat} {n : Int32} (h : value % 4294967296 = n.toUInt32.toNat) :
    ofWord value = n := by
  have hword : UInt32.ofNat value = n.toUInt32 := by
    rw [← UInt32.toNat_inj, UInt32.toNat_ofNat']
    exact h
  rw [ofWord, hword, n.toInt32_toUInt32]

end Fields

section Values

-- No tag is zero, and there are 29 bits for it.
structure Key.Written (key : Key) (bytes : Bytes) : Prop where
  tag_pos : 0 < key.tag
  tag_lt : key.tag < 536870912
  form : Varint.Written (8 * key.tag + wireTypeCode key.wireType) bytes

-- A value that is no group.
inductive Plain : WireType → Bytes → Prop
  | varint {n : Nat} {value : Bytes} (h : Varint.Written n value) : Plain .varint value
  | fixed64 {value : Bytes} (h : value.length = 8) : Plain .fixed64 value
  | fixed32 {value : Bytes} (h : value.length = 4) : Plain .fixed32 value
  | delimited {length value : Bytes} (h : Varint.Written value.length length) :
      Plain .delimited (length ++ value)

-- What may stand inside so many groups: fields with any tags, and groups that the tag which
-- opened them closes. Nothing stands inside 99 of them.
inductive Inside : Nat → Bytes → Prop
  | nil {depth : Nat} : Inside depth []
  | plain {depth number : Nat} {wireType : WireType} {key value rest : Bytes} (hdepth : depth < 99)
      (hkey : Key.Written ⟨number, wireType⟩ key) (hvalue : Plain wireType value)
      (hrest : Inside depth rest) :
      Inside depth (key ++ (value ++ rest))
  | group {depth number : Nat} {first inner last rest : Bytes} (hdepth : depth < 99)
      (hfirst : Key.Written ⟨number, .startGroup⟩ first) (hinner : Inside (depth + 1) inner)
      (hlast : Key.Written ⟨number, .endGroup⟩ last) (hrest : Inside depth rest) :
      Inside depth (first ++ (inner ++ (last ++ rest)))

end Values

section Entries

-- One field of a record and what it holds. What an unknown one holds makes no difference.
inductive Entry
  | number (field : Field) (value : Nat)
  | sender (text : String)
  | payload (bytes : Bytes)
  | unknown

namespace Entry

def field? : Entry → Option Field
  | .number field _ => some field
  | .sender _ => some .sender
  | .payload _ => some .payload
  | .unknown => none

-- What `m` becomes by it.
def store (m : Message) : Entry → Message
  | .number field value => setNumber m value field
  | .sender text => { m with sender := text }
  | .payload bytes => { m with payload := bytes }
  | .unknown => m

-- It holds what `m` has in that field.
def Tells (m : Message) : Entry → Prop
  | .number .kind value => value % 4294967296 = m.kind.toUInt32.toNat
  | .number .ttl value => value % 4294967296 = m.ttl.toUInt32.toNat
  | .number .id value => value = m.id.toNat
  | .number .nonce value => value = m.nonce.toNat
  | .number .sender _ | .number .payload _ => False
  | .sender text => text = m.sender
  | .payload bytes => bytes = m.payload
  | .unknown => True

inductive Written : Entry → Bytes → Prop
  | number {field : Field} {value : Nat} {key bytes : Bytes} (hfield : isNumber field = true)
      (hkey : Key.Written ⟨tag field, .varint⟩ key) (hvalue : Varint.Written value bytes) :
      Written (.number field value) (key ++ bytes)
  | sender {text : String} {key length : Bytes} (hkey : Key.Written ⟨tag .sender, .delimited⟩ key)
      (hlength : Varint.Written (Utf8.encode text).length length) :
      Written (.sender text) (key ++ (length ++ Utf8.encode text))
  | payload {bytes key length : Bytes} (hkey : Key.Written ⟨tag .payload, .delimited⟩ key)
      (hlength : Varint.Written bytes.length length) :
      Written (.payload bytes) (key ++ (length ++ bytes))
  | plain {number : Nat} {wireType : WireType} {key value : Bytes} (hnumber : 6 < number)
      (hkey : Key.Written ⟨number, wireType⟩ key) (hvalue : Plain wireType value) :
      Written .unknown (key ++ value)
  | group {number : Nat} {first inner last : Bytes} (hnumber : 6 < number)
      (hfirst : Key.Written ⟨number, .startGroup⟩ first) (hinner : Inside 1 inner)
      (hlast : Key.Written ⟨number, .endGroup⟩ last) : Written .unknown (first ++ (inner ++ last))

end Entry

-- The bytes of entries that stand one after the other.
inductive Spells : List Entry → Bytes → Prop
  | nil : Spells [] []
  | cons {entry : Entry} {entries : List Entry} {bytes rest : Bytes} (hentry : entry.Written bytes)
      (hrest : Spells entries rest) : Spells (entry :: entries) (bytes ++ rest)

def lastOf (field : Field) (entries : List Entry) : Option Entry :=
  (entries.filter fun entry => entry.field? = some field).getLast?

-- The last entry of each field holds what `m` has there, and `m` has nothing where there is none.
def Tell (entries : List Entry) (m : Message) : Prop :=
  ∀ field, match lastOf field entries with
    | some entry => entry.Tells m
    | none => fieldFrom {} m field = m

variable {entry : Entry} {entries : List Entry} {field : Field} {m m' : Message}

theorem Entry.fieldFrom_store (h : entry.field? = some field) (htells : entry.Tells m)
    (m' : Message) : fieldFrom m (entry.store m') field = entry.store m' := by
  cases entry with
  | number other value =>
      obtain rfl : other = field := Option.some.inj h
      cases other with
      | kind => simp only [store, setNumber, fieldFrom, ofWord_eq_of_low htells]
      | ttl => simp only [store, setNumber, fieldFrom, ofWord_eq_of_low htells]
      | id => simp [store, setNumber, fieldFrom, show value = m.id.toNat from htells]
      | nonce => simp [store, setNumber, fieldFrom, show value = m.nonce.toNat from htells]
      | sender => cases htells
      | payload => cases htells
  | sender text =>
      obtain rfl : Field.sender = field := Option.some.inj h
      rw [show text = m.sender from htells]
      rfl
  | payload bytes =>
      obtain rfl : Field.payload = field := Option.some.inj h
      rw [show bytes = m.payload from htells]
      rfl
  | unknown => cases h

theorem Entry.fieldFrom_store_other (h : entry.field? ≠ some field) (m m' : Message) :
    fieldFrom m (entry.store m') field = entry.store (fieldFrom m m' field) := by
  cases entry with
  | number other value => cases other <;> cases field <;> first | rfl | exact absurd rfl h
  | sender text => cases field <;> first | rfl | exact absurd rfl h
  | payload bytes => cases field <;> first | rfl | exact absurd rfl h
  | unknown => rfl

theorem lastOf_concat (field : Field) (entries : List Entry) (entry : Entry) :
    lastOf field (entries ++ [entry]) =
      if entry.field? = some field then some entry else lastOf field entries := by
  unfold lastOf
  by_cases h : entry.field? = some field <;> simp [h, List.filter_append]

-- Whatever came before, the last one counts.
theorem fieldFrom_foldl_store (entries : List Entry) (h : match lastOf field entries with
      | some entry => entry.Tells m
      | none => fieldFrom {} m field = m) :
    fieldFrom m (entries.foldl Entry.store {}) field = entries.foldl Entry.store {} := by
  -- from the end: an entry of the field settles it, another leaves it to those before
  induction entries using List.reverseRecOn with
  | nil =>
      have hdefault : fieldFrom {} m field = m := h
      rw [← hdefault]
      cases field <;> rfl
  | append_singleton entries entry ih =>
      rw [lastOf_concat] at h
      rw [List.foldl_append, List.foldl_cons, List.foldl_nil]
      by_cases hfield : entry.field? = some field
      · rw [if_pos hfield] at h
        exact Entry.fieldFrom_store hfield h _
      · rw [if_neg hfield] at h
        rw [Entry.fieldFrom_store_other hfield, ih h]

theorem Tell.foldl_store (h : Tell entries m) : entries.foldl Entry.store {} = m :=
  eq_of_fieldFrom fun field => fieldFrom_foldl_store entries (h field)

end Entries

section Read

variable {m : Message} {input : Input} {tail : Bytes} {field : Field} {wireType : WireType}

theorem exists_readVarint {n : Nat} {form : Bytes} (h : Varint.Written n form)
    (hinput : input.bytes = form ++ tail) :
    ∃ rest, readVarint input = .ok (n, rest) ∧ rest.val.bytes = tail := by
  obtain ⟨rest, hread, hrest⟩ := h.exists_read hinput
  exact ⟨rest, by simp [readVarint, hread], hrest⟩

theorem exists_takeBytes {value : Bytes} (hinput : input.bytes = value ++ tail) :
    ∃ rest, takeBytes value.length input = .ok (value, rest) ∧ rest.val.bytes = tail := by
  obtain ⟨rest, htake, hrest⟩ := Input.exists_take hinput
  exact ⟨rest, by simp [takeBytes, htake], hrest⟩

theorem exists_readDelimited {length value : Bytes} (h : Varint.Written value.length length)
    (hinput : input.bytes = length ++ (value ++ tail)) :
    ∃ rest, readDelimited input = .ok (value, rest) ∧ rest.val.bytes = tail := by
  obtain ⟨rest, hread, hrest⟩ := exists_readVarint h hinput
  obtain ⟨last, htake, hlast⟩ := exists_takeBytes hrest
  exact ⟨rest.tail last, by simp [readDelimited, hread, htake], hlast⟩

theorem wireType?_code (wireType : WireType) :
    wireType? (wireTypeCode wireType) = some wireType := by
  cases wireType <;> rfl

theorem wireTypeCode_lt (wireType : WireType) : wireTypeCode wireType < 8 := by
  cases wireType <;> decide

theorem Key.Written.exists_readKey {key : Key} {bytes : Bytes} (h : key.Written bytes)
    (hinput : input.bytes = bytes ++ tail) :
    ∃ rest, readKey input = .ok (key, rest) ∧ rest.val.bytes = tail := by
  have hpos := h.tag_pos
  have hlt := h.tag_lt
  have hcode := wireTypeCode_lt key.wireType
  have hsize : UInt32.size = 4294967296 := rfl
  have hmod : (8 * key.tag + wireTypeCode key.wireType) % 8 = wireTypeCode key.wireType := by omega
  have hdiv : (8 * key.tag + wireTypeCode key.wireType) / 8 = key.tag := by omega
  obtain ⟨rest, hread, hrest⟩ := exists_readVarint h.form hinput
  refine ⟨rest, ?_, hrest⟩
  simp only [readKey, hread, hmod, hdiv, wireType?_code]
  rw [if_neg (by omega), if_neg (by omega)]

theorem Plain.exists_skipPlain {value : Bytes} (h : Plain wireType value)
    (hinput : input.bytes = value ++ tail) :
    ∃ rest, skipPlain wireType input = .ok rest ∧ rest.val.bytes = tail := by
  cases h with
  | varint h =>
      obtain ⟨rest, hread, hrest⟩ := exists_readVarint h hinput
      exact ⟨Input.Rest.toTail rest, by simp [skipPlain, hread], hrest⟩
  | fixed64 h =>
      obtain ⟨rest, htake, hrest⟩ := exists_takeBytes hinput
      rw [h] at htake
      exact ⟨rest, by simp [skipPlain, htake, Except.map], hrest⟩
  | fixed32 h =>
      obtain ⟨rest, htake, hrest⟩ := exists_takeBytes hinput
      rw [h] at htake
      exact ⟨rest, by simp [skipPlain, htake, Except.map], hrest⟩
  | delimited h =>
      rw [List.append_assoc] at hinput
      obtain ⟨rest, hread, hrest⟩ := exists_readDelimited h hinput
      exact ⟨Input.Rest.toTail rest, by simp [skipPlain, hread], hrest⟩

theorem Plain.not_group {value : Bytes} (h : Plain wireType value) :
    wireType ≠ .startGroup ∧ wireType ≠ .endGroup := by
  cases h <;> decide

section Groups

variable {whole : Input} {input : whole.Tail} {number group : Nat} {outer : List Nat}

theorem closeGroups_plain {rest : input.val.Rest} {last : rest.val.Tail}
    (hplain : wireType ≠ .startGroup ∧ wireType ≠ .endGroup)
    (hkey : readKey input.val = .ok (⟨number, wireType⟩, rest))
    (hdepth : outer.length + 1 < maxDepth) (hskip : skipPlain wireType rest.val = .ok last) :
    ∃ after : whole.Tail, closeGroups (group :: outer) input = closeGroups (group :: outer) after ∧
      after.val.bytes = last.val.bytes := by
  refine ⟨⟨last.val, ?_⟩, ?_, rfl⟩
  · exact Nat.le_trans last.property (Nat.le_trans (Nat.le_of_lt rest.property) input.property)
  · rw [closeGroups, hkey]
    dsimp only
    cases wireType with
    | startGroup => exact absurd rfl hplain.1
    | endGroup => exact absurd rfl hplain.2
    | _ => simp [Nat.not_le.mpr hdepth, hskip]

theorem closeGroups_open {rest : input.val.Rest}
    (hkey : readKey input.val = .ok (⟨number, .startGroup⟩, rest))
    (hdepth : outer.length + 1 < maxDepth) :
    ∃ after : whole.Tail, closeGroups (group :: outer) input =
      closeGroups (number :: group :: outer) after ∧ after.val.bytes = rest.val.bytes := by
  refine ⟨⟨rest.val, Nat.le_trans (Nat.le_of_lt rest.property) input.property⟩, ?_, rfl⟩
  rw [closeGroups, hkey]
  simp [Nat.not_le.mpr hdepth]

theorem closeGroups_close {rest : input.val.Rest}
    (hkey : readKey input.val = .ok (⟨group, .endGroup⟩, rest)) :
    ∃ after : whole.Tail, closeGroups (group :: outer) input = closeGroups outer after ∧
      after.val.bytes = rest.val.bytes := by
  refine ⟨⟨rest.val, Nat.le_trans (Nat.le_of_lt rest.property) input.property⟩, ?_, rfl⟩
  rw [closeGroups, hkey]
  simp

-- What stands inside a group is passed over up to the key that closes the group.
theorem Inside.exists_closeGroups {depth : Nat} {bytes : Bytes} (h : Inside depth bytes)
    (hdepth : outer.length + 1 = depth) (hinput : input.val.bytes = bytes ++ tail) :
    ∃ after : whole.Tail, closeGroups (group :: outer) input = closeGroups (group :: outer) after ∧
      after.val.bytes = tail := by
  -- the groups around are generalized too: inside an inner group there is one more of them
  induction h generalizing group outer input tail with
  | nil => exact ⟨input, rfl, hinput⟩
  | plain hfew hkey hvalue _ ih =>
      simp only [List.append_assoc] at hinput
      obtain ⟨rest, hread, hrest⟩ := hkey.exists_readKey hinput
      obtain ⟨last, hskip, hlast⟩ := hvalue.exists_skipPlain hrest
      obtain ⟨after, hstep, hafter⟩ :=
        closeGroups_plain hvalue.not_group hread (hdepth ▸ hfew) hskip
      obtain ⟨done, hall, hdone⟩ := ih hdepth (hafter.trans hlast)
      exact ⟨done, hstep.trans hall, hdone⟩
  | @group depth _ _ _ _ _ hfew hfirst _ hlast _ ihinner ihrest =>
      have hdeeper : (group :: outer).length + 1 = depth + 1 := congrArg Nat.succ hdepth
      simp only [List.append_assoc] at hinput
      obtain ⟨rest, hread, hrest⟩ := hfirst.exists_readKey hinput
      obtain ⟨opened, hopen, hopened⟩ := closeGroups_open hread (hdepth ▸ hfew)
      obtain ⟨filled, hfill, hfilled⟩ := ihinner hdeeper (hopened.trans hrest)
      obtain ⟨rest', hread', hrest'⟩ := hlast.exists_readKey hfilled
      obtain ⟨closed, hclose, hclosed⟩ := closeGroups_close hread'
      obtain ⟨done, hall, hdone⟩ := ihrest hdepth (hclosed.trans hrest')
      exact ⟨done, hopen.trans (hfill.trans (hclose.trans hall)), hdone⟩

end Groups

theorem field?_tag (field : Field) : field? (tag field) = some field := by
  cases field <;> rfl

theorem field?_of_lt {number : Nat} (h : 6 < number) : field? number = none := by
  unfold field?
  split <;> first | omega | rfl

theorem readField_number (h : isNumber field = true) (m : Message) (input : Input) :
    readField m field .varint input =
      (readVarint input).map fun (value, rest) => (setNumber m value field, rest) := by
  cases field <;> first | rfl | cases h

theorem skip_plain {number : Nat} (h : wireType ≠ .startGroup) (input : Input) :
    skip ⟨number, wireType⟩ input = skipPlain wireType input := by
  cases wireType <;> first | rfl | exact absurd rfl h

theorem Entry.Written.exists_readAny {entry : Entry} {bytes : Bytes} (h : entry.Written bytes)
    (m : Message) (hinput : input.bytes = bytes ++ tail) :
    ∃ rest, readAny m input = .ok (entry.store m, rest) ∧ rest.val.bytes = tail := by
  cases h with
  | number hfield hkey hvalue =>
      rw [List.append_assoc] at hinput
      obtain ⟨rest, hread, hrest⟩ := hkey.exists_readKey hinput
      obtain ⟨last, hnumber, hlast⟩ := exists_readVarint hvalue hrest
      refine ⟨rest.next last, ?_, hlast⟩
      simp only [readAny, hread, field?_tag, readField_number hfield, hnumber, Except.map,
        Entry.store]
  | sender hkey hlength =>
      simp only [List.append_assoc] at hinput
      obtain ⟨rest, hread, hrest⟩ := hkey.exists_readKey hinput
      obtain ⟨last, htext, hlast⟩ := exists_readDelimited hlength hrest
      refine ⟨rest.next last, ?_, hlast⟩
      simp [readAny, hread, field?_tag, readField, htext, Utf8.decode_encode, Except.map,
        Entry.store]
  | payload hkey hlength =>
      simp only [List.append_assoc] at hinput
      obtain ⟨rest, hread, hrest⟩ := hkey.exists_readKey hinput
      obtain ⟨last, hbytes, hlast⟩ := exists_readDelimited hlength hrest
      refine ⟨rest.next last, ?_, hlast⟩
      simp [readAny, hread, field?_tag, readField, hbytes, Except.map, Entry.store]
  | plain hnumber hkey hvalue =>
      rw [List.append_assoc] at hinput
      obtain ⟨rest, hread, hrest⟩ := hkey.exists_readKey hinput
      obtain ⟨last, hskip, hlast⟩ := hvalue.exists_skipPlain hrest
      refine ⟨rest.tail last, ?_, hlast⟩
      simp only [readAny, hread, field?_of_lt hnumber, skip_plain hvalue.not_group.1, hskip,
        Entry.store]
  | @group number _ _ last hnumber hfirst hinner hlast =>
      simp only [List.append_assoc] at hinput
      obtain ⟨rest, hread, hrest⟩ := hfirst.exists_readKey hinput
      obtain ⟨filled, hfill, hfilled⟩ : ∃ filled : rest.val.Tail,
          skip ⟨number, .startGroup⟩ rest.val = closeGroups [number] filled ∧
          filled.val.bytes = last ++ tail :=
        hinner.exists_closeGroups rfl hrest
      obtain ⟨rest', hread', hrest'⟩ := hlast.exists_readKey hfilled
      obtain ⟨closed, hclose, hclosed⟩ : ∃ closed : rest.val.Tail,
          closeGroups [number] filled = closeGroups [] closed ∧
          closed.val.bytes = rest'.val.bytes :=
        closeGroups_close hread'
      have hskip : skip ⟨number, .startGroup⟩ rest.val = .ok closed := by
        rw [hfill, hclose, closeGroups]
      refine ⟨rest.tail closed, ?_, hclosed.trans hrest'⟩
      simp only [readAny, hread, field?_of_lt hnumber, hskip, Entry.store]

-- Entries are read one after the other, up to what stands behind the record.
theorem Spells.readFields {entries : List Entry} {body : Bytes} (h : Spells entries body)
    (m : Message) (hinput : input.bytes = body ++ tail) :
    readFields tail.length m input = .ok (entries.foldl Entry.store m) := by
  induction h generalizing m input with
  | nil =>
      have hsize : input.size = tail.length := by
        rw [input.size_eq, hinput]
        rfl
      rw [Record.readFields, if_neg (by omega), if_pos hsize]
      rfl
  | @cons entry entries bytes rest hentry hrest ih =>
      rw [List.append_assoc] at hinput
      obtain ⟨after, hread, hafter⟩ := hentry.exists_readAny m hinput
      have hmore : tail.length < input.size := by
        have hless := after.property
        rw [after.val.size_eq, hafter, List.length_append] at hless
        omega
      rw [Record.readFields, if_pos hmore, hread]
      exact ih (entry.store m) hafter

-- What stands behind a record makes no difference.
theorem Spells.read {entries : List Entry} {body length : Bytes} (h : Spells entries body)
    (hlength : Varint.Written body.length length)
    (hinput : input.bytes = length ++ (body ++ tail)) :
    read input = .ok (entries.foldl Entry.store {}) := by
  obtain ⟨rest, hread, hrest⟩ := exists_readVarint hlength hinput
  have hsize : rest.val.size = body.length + tail.length := by
    rw [rest.val.size_eq, hrest, List.length_append]
  have hafter : rest.val.size - body.length = tail.length := by omega
  rw [Record.read, hread]
  dsimp only
  rw [if_neg (by omega), hafter, h.readFields {} hrest]

end Read

end Rumor.Record
