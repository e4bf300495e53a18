import Rumor.Proofs.Digits
import Rumor.Proofs.Stamp

namespace Rumor.Stamp

variable {m m' : Message}

-- The three numbers behind the payload, with nothing between them.
def numbers (m : Message) : String :=
  Decimal.ofInt m.ttl.toInt ++ Decimal.ofNat m.id.toNat ++ Decimal.ofNat m.nonce.toNat

theorem hashed_eq_encode (m : Message) :
    hashed m = Utf8.encode (Decimal.ofInt m.kind.toInt ++ m.sender ++ Utf8.lossy m.payload ++ numbers m) := by
  simp only [hashed, canonicalBytes, canonical, nonceBytes, numbers, Utf8.encode_append,
    Decimal.encode_ofNat, List.append_assoc]

theorem hashed_eq_iff_numbers (hkind : m.kind = m'.kind) (hsender : m.sender = m'.sender)
    (hpayload : m.payload = m'.payload) : hashed m = hashed m' ↔ numbers m = numbers m' := by
  rw [hashed_eq_encode, hashed_eq_encode, hkind, hsender, hpayload]
  constructor
  · intro h
    exact String.append_right_inj _ |>.mp (Utf8.encode_inj h)
  · intro h
    rw [h]

-- Numbers of the same width do not run into each other.
theorem eq_of_numbers_eq (hkind : m.kind = m'.kind) (hsender : m.sender = m'.sender)
    (hpayload : m.payload = m'.payload)
    (httl : (Decimal.ofInt m.ttl.toInt).length = (Decimal.ofInt m'.ttl.toInt).length)
    (hid : (Decimal.ofNat m.id.toNat).length = (Decimal.ofNat m'.id.toNat).length)
    (h : numbers m = numbers m') : m = m' := by
  have hlists := congrArg String.toList h
  simp only [numbers, String.toList_append] at hlists
  rw [← String.length_toList, ← String.length_toList] at httl hid
  obtain ⟨hfront, hnonces⟩ := List.append_inj hlists (by simp only [List.length_append, httl, hid])
  obtain ⟨httls, hids⟩ := List.append_inj hfront httl
  have httl' : m.ttl = m'.ttl := Int32.toInt_inj.mp (Decimal.ofInt_inj (String.toList_inj.mp httls))
  have hid' : m.id = m'.id := UInt64.toNat_inj.mp (Decimal.ofNat_inj (String.toList_inj.mp hids))
  have hnonce : m.nonce = m'.nonce :=
    UInt64.toNat_inj.mp (Decimal.ofNat_inj (String.toList_inj.mp hnonces))
  cases m
  cases m'
  simp_all

-- A stamp binds the numbers only as they are written in one row. It serves another
-- message as well when the same row is cut in other places.
theorem hashed_eq_iff_same_row (hkind : m.kind = m'.kind) (hsender : m.sender = m'.sender)
    (hpayload : m.payload = m'.payload) : (hashed m = hashed m' ↔ numbers m = numbers m') ∧
      ((Decimal.ofInt m.ttl.toInt).length = (Decimal.ofInt m'.ttl.toInt).length →
        (Decimal.ofNat m.id.toNat).length = (Decimal.ofNat m'.id.toNat).length →
        (hashed m = hashed m' ↔ m = m')) := by
  have hrow := hashed_eq_iff_numbers hkind hsender hpayload
  refine ⟨hrow, fun httl hid => ⟨fun h => ?_, fun h => h ▸ rfl⟩⟩
  exact eq_of_numbers_eq hkind hsender hpayload httl hid (hrow.mp h)

section Example

def oneHop (id : MessageId) (nonce : UInt64) : Message :=
  { ttl := 1, id, nonce }

theorem hashed_ne_of_other_id : hashed (oneHop 2 0) ≠ hashed (oneHop 3 5) := by
  have hwidth : (Decimal.ofNat 2).length = (Decimal.ofNat 3).length := by
    rw [Decimal.ofNat, Decimal.ofNat, Decimal.digits_of_lt (by decide),
      Decimal.digits_of_lt (by decide)]
    rfl
  have hkind : (oneHop 2 0).kind = (oneHop 3 5).kind := rfl
  obtain ⟨_, hwidths⟩ := hashed_eq_iff_same_row hkind rfl rfl
  rw [ne_eq, hwidths rfl hwidth]
  decide

def twelveHops (id : MessageId) (nonce : UInt64) : Message :=
  { ttl := 12, id, nonce }

-- One hop to go and the id 23 read like twelve hops and the id 3.
theorem one_stamp_for_two :
    (oneHop 23 7).ttl ≠ (twelveHops 3 7).ttl ∧ (oneHop 23 7).id ≠ (twelveHops 3 7).id ∧
    hashed (oneHop 23 7) = hashed (twelveHops 3 7) ∧
    ∀ (H : Digest) (d : Difficulty), isValid H d (oneHop 23 7) = isValid H d (twelveHops 3 7) := by
  have hkind : (oneHop 23 7).kind = (twelveHops 3 7).kind := rfl
  have hid : Decimal.ofNat 2 ++ Decimal.ofNat 3 = Decimal.ofNat 23 :=
    Decimal.ofNat_append_digit (by decide) (by decide)
  have httl : Decimal.ofNat 1 ++ Decimal.ofNat 2 = Decimal.ofNat 12 :=
    Decimal.ofNat_append_digit (by decide) (by decide)
  have hfront : Decimal.ofNat 1 ++ Decimal.ofNat 23 = Decimal.ofNat 12 ++ Decimal.ofNat 3 := by
    rw [← hid, ← String.append_assoc, httl]
  have hrow : numbers (oneHop 23 7) = numbers (twelveHops 3 7) :=
    congrArg (· ++ Decimal.ofNat 7) hfront
  have hhashed := (hashed_eq_iff_numbers hkind rfl rfl).mpr hrow
  refine ⟨by decide, by decide, hhashed, fun H d => ?_⟩
  rw [isValid, hhashed, isValid]

end Example

end Rumor.Stamp
