import Rumor.Message
import Rumor.Proofs.Json
import Rumor.Proofs.Utf8.Strict

namespace Rumor

namespace Kind

theorem isSome_ofCode?_iff (code : Int32) :
    (ofCode? code).isSome = true ↔ 0 ≤ code ∧ code ≤ 65535 := by
  unfold ofCode?
  by_cases hdata : 0 ≤ code ∧ code ≤ 65535
  · simp only [hdata, and_self, if_true, iff_true]
    repeat' split
    all_goals rfl
  · simp only [hdata, if_false, iff_false]
    have hne (n : Int32) (hn : 0 ≤ n ∧ n ≤ 65535) : code ≠ n := fun h => hdata (h ▸ hn)
    rw [if_neg (hne 511 (by decide)), if_neg (hne 512 (by decide)), if_neg (hne 513 (by decide)),
      if_neg (hne 514 (by decide))]
    decide

theorem ofCode_map {α : Type} (code : Int32) (a : α) :
    ((ofCode code).map fun _ => a) = if 0 ≤ code ∧
    code ≤ 65535 then .ok a else .error (.unknownKind code.toInt) := by
  have hsome := isSome_ofCode?_iff code
  unfold ofCode
  cases hcode : ofCode? code with
  | some kind =>
      rw [if_pos (hsome.mp (hcode ▸ rfl))]
      rfl
  | none =>
      have hout : ¬(0 ≤ code ∧ code ≤ 65535) := by
        rw [← hsome, hcode]
        decide
      rw [if_neg hout]
      rfl

theorem toInt_code_data (datatype : UInt16) : (data datatype).code.toInt = datatype.toNat :=
  Int32.toInt_ofNat_of_lt (Nat.lt_trans datatype.toNat_lt (by decide))

-- Data under a code that is not reserved is read as data.
theorem ofCode?_code_data {datatype : UInt16} (h : reserved datatype = false) :
    ofCode? (data datatype).code = some (.data datatype) := by
  have hcode := toInt_code_data datatype
  have hlt := datatype.toNat_lt
  have hfree : datatype.toNat < 511 ∨ 514 < datatype.toNat := by
    simp only [reserved, Bool.and_eq_false_iff, decide_eq_false_iff_not, UInt16.not_le] at h
    exact h
  have hne (code : Int32) (hcode' : 511 ≤ code.toInt ∧ code.toInt ≤ 514) :
      (data datatype).code ≠ code := by
    intro he
    rw [← he, hcode] at hcode'
    omega
  have hrange : 0 ≤ (data datatype).code ∧ (data datatype).code ≤ 65535 := by
    constructor <;> rw [Int32.le_iff_toInt_le, hcode]
    · exact Int.natCast_nonneg _
    · exact Int.ofNat_le.mpr (Nat.le_of_lt_succ hlt)
  have hback : (data datatype).code.toNatClampNeg = datatype.toNat :=
    Int32.toNatClampNeg_ofNat_of_lt (Nat.lt_trans hlt (by decide))
  rw [ofCode?, if_neg (hne 511 (by decide)), if_neg (hne 512 (by decide)),
    if_neg (hne 513 (by decide)),
    if_neg (hne 514 (by decide)), if_pos hrange, hback, UInt16.ofNat_toNat]

end Kind

namespace Message

variable {m : Message}

theorem kind?_data (id : MessageId) (sender : String) {datatype : UInt16} (payload : Bytes)
    (ttl : Int32) (h : Kind.reserved datatype = false) :
    (data id sender datatype payload ttl).kind? = some (.data datatype) :=
  Kind.ofCode?_code_data h

theorem address_eq_ok_iff {address : String} :
    m.address = .ok address ↔ m.payload = Utf8.encode address ∧ address ≠ "" := by
  rw [← Utf8.decode_eq_ok_iff, Message.address]
  cases Utf8.decode m.payload with
  | error fault => simp
  | ok text =>
      by_cases hempty : text = ""
      · simp only [hempty, if_true, Except.ok.injEq, reduceCtorEq, false_iff, not_and,
          Classical.not_not]
        exact Eq.symm
      · simp only [hempty, if_false, Except.ok.injEq]
        exact ⟨fun h => ⟨h, h ▸ hempty⟩, fun h => h.1⟩

theorem exists_address_error (hnone : ∀ address, address ≠ "" → m.payload ≠ Utf8.encode address) :
    ∃ error, m.address = .error error := by
  cases haddress : m.address with
  | error error => exact ⟨error, rfl⟩
  | ok address =>
      obtain ⟨hpayload, hsome⟩ := address_eq_ok_iff.mp haddress
      exact absurd hpayload (hnone address hsome)

theorem addresses_of_payload {list : List String} (h : m.payload = (Json.Item.texts list).compact) :
    m.addresses = .ok list := by
  rw [addresses, h, Json.texts?_of_parse?_compact]

end Message

end Rumor
