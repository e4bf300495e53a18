import Rumor.Proofs.Utf8

namespace Rumor.Decimal

theorem digit?_digit : ∀ d < 10, digit? (digit d) = some d := by
  decide

-- Reading on behind the digits of `n` is reading on from `n`.
theorem valueFrom_digitsBefore (n : Nat) (rest : List Char) :
    valueFrom 0 (digitsBefore n rest) = valueFrom n rest := by
  induction n using Nat.strongRecOn generalizing rest with
  | ind n ih =>
      rw [digitsBefore]
      split
      · rename_i hn
        rw [valueFrom, digit?_digit n hn]
        simp
      · rename_i hn
        have hdigit : n % 10 < 10 := Nat.mod_lt n (by decide)
        have hback : 10 * (n / 10) + n % 10 = n := Nat.div_add_mod n 10
        rw [ih (n / 10) (by omega), valueFrom, digit?_digit _ hdigit]
        simp [hback]

theorem valueFrom_digits (n : Nat) : valueFrom 0 (digits n) = some n := by
  rw [digits, valueFrom_digitsBefore, valueFrom]

theorem digits_inj {m n : Nat} (h : digits m = digits n) : m = n := by
  have hvalue := valueFrom_digits m
  rw [h, valueFrom_digits] at hvalue
  exact (Option.some.inj hvalue).symm

theorem ofNat_inj {m n : Nat} (h : ofNat m = ofNat n) : m = n :=
  digits_inj (String.ofList_inj.mp h)

-- No digits begin with a sign.
theorem digits_ne_minus (n : Nat) (rest : List Char) : digits n ≠ '-' :: rest := by
  intro h
  have hvalue := valueFrom_digits n
  rw [h, valueFrom] at hvalue
  cases hvalue

theorem ofInt_inj {a b : Int} (h : ofInt a = ofInt b) : a = b := by
  cases a with
  | ofNat m =>
      cases b with
      | ofNat n => rw [ofNat_inj h]
      | negSucc n => exact absurd (String.ofList_inj.mp h) (digits_ne_minus m _)
  | negSucc m =>
      cases b with
      | ofNat n => exact absurd (String.ofList_inj.mp h).symm (digits_ne_minus n _)
      | negSucc n =>
          have hdigits := digits_inj (List.tail_eq_of_cons_eq (String.ofList_inj.mp h))
          rw [Nat.succ.inj hdigits]

theorem digits_of_lt {n : Nat} (h : n < 10) : digits n = [digit n] := by
  rw [digits, digitsBefore, if_pos h]

theorem digitsBefore_eq_append (n : Nat) (rest : List Char) :
    digitsBefore n rest = digits n ++ rest := by
  induction n using Nat.strongRecOn generalizing rest with
  | ind n ih =>
      by_cases hn : n < 10
      · rw [digits_of_lt hn, digitsBefore, if_pos hn]
        rfl
      · have hshort : n / 10 < n := by omega
        have hdigits : digits n = digits (n / 10) ++ [digit (n % 10)] := by
          rw [digits, digitsBefore, if_neg hn, ih _ hshort]
        rw [digitsBefore, if_neg hn, ih _ hshort, hdigits, List.append_assoc]
        rfl

theorem digits_of_le {n : Nat} (h : 10 ≤ n) : digits n = digits (n / 10) ++ [digit (n % 10)] := by
  rw [digits, digitsBefore, if_neg (Nat.not_lt.mpr h), digitsBefore_eq_append]

-- A digit that is written behind a number makes it ten times as large.
theorem ofNat_append_digit {n d : Nat} (hn : 0 < n) (hd : d < 10) :
    ofNat n ++ ofNat d = ofNat (10 * n + d) := by
  have hdiv : (10 * n + d) / 10 = n := by omega
  have hmod : (10 * n + d) % 10 = d := by omega
  simp only [ofNat]
  rw [← String.ofList_append, digits_of_lt hd,
    digits_of_le (by omega : 10 ≤ 10 * n + d), hdiv, hmod]

theorem mem_digitsBefore {n : Nat} {rest : List Char} {c : Char} (h : c ∈ digitsBefore n rest) :
    c ∈ rest ∨ ∃ d < 10, c = digit d := by
  induction n using Nat.strongRecOn generalizing rest with
  | ind n ih =>
      rw [digitsBefore] at h
      split at h
      · rename_i hn
        rcases List.mem_cons.mp h with rfl | hrest
        · exact Or.inr ⟨n, hn, rfl⟩
        · exact Or.inl hrest
      · rename_i hn
        rcases ih (n / 10) (by omega) h with hmem | hdigit
        · rcases List.mem_cons.mp hmem with rfl | hrest
          · exact Or.inr ⟨n % 10, Nat.mod_lt n (by decide), rfl⟩
          · exact Or.inl hrest
        · exact Or.inr hdigit

theorem encodeChar_digit : ∀ d < 10, Utf8.encodeChar (digit d) = [(digit d).val.toUInt8] := by
  decide

-- Each digit is one byte.
theorem encode_ofNat (n : Nat) : Utf8.encode (ofNat n) = (digits n).map fun c => c.val.toUInt8 := by
  have hchar : ∀ c ∈ digits n, Utf8.encodeChar c = [c.val.toUInt8] := by
    intro c hc
    rcases mem_digitsBefore hc with hnone | ⟨d, hd, rfl⟩
    · cases hnone
    · exact encodeChar_digit d hd
  rw [Utf8.encode, ofNat, String.toList_ofList, List.map_eq_flatMap, List.flatMap_def,
    List.map_congr_left hchar, ← List.flatMap_def]

theorem length_digits_le {n k : Nat} (h : (digits (n / 10)).length ≤ k) :
    (digits n).length ≤ k + 1 := by
  rcases Nat.lt_or_ge n 10 with hn | hn
  · rw [digits_of_lt hn]
    simp
  · rw [digits_of_le hn, List.length_append, List.length_singleton]
    exact Nat.succ_le_succ h

theorem length_encode_le {n : Nat} (h : n ≤ 65535) : (Utf8.encode (ofNat n)).length ≤ 5 := by
  have hfirst : (digits (n / 10 / 10 / 10 / 10)).length ≤ 1 := by
    rw [digits_of_lt (by omega)]
    exact Nat.le_refl 1
  rw [encode_ofNat, List.length_map]
  exact length_digits_le (length_digits_le (length_digits_le (length_digits_le hfirst)))

end Rumor.Decimal

namespace Rumor.Hex

theorem digit?_digit : ∀ n < 16, digit? (digit n).val.toUInt8 = some n := by
  decide

end Rumor.Hex
