import Rumor.Stamp

namespace Rumor

theorem Difficulty.leadingZeros_mono {k n : Nat} {digest : Bytes} (hle : k ≤ n)
    (h : leadingZeros n digest = true) : leadingZeros k digest = true := by
  induction digest generalizing k n with
  | nil => cases k <;> rfl
  | cons b rest ih =>
      match k, n with
      | 0, _ => rfl
      | 1, 1 => exact h
      | 1, n + 2 =>
          obtain ⟨hb, _⟩ : b = 0 ∧ leadingZeros n rest = true := by simpa [leadingZeros] using h
          simp [leadingZeros, hb]
      | k + 2, n + 2 =>
          obtain ⟨hb, hrest⟩ : b = 0 ∧ leadingZeros n rest = true := by simpa [leadingZeros] using h
          have hshort : leadingZeros k rest = true := ih (Nat.le_of_add_le_add_right hle) hrest
          simp [leadingZeros, hb, hshort]

end Rumor

namespace Rumor.Stamp

theorem leastFrom_eq_some {passes : Nat → Bool} {n k : Nat} (h : leastFrom passes n = some k) :
    passes k = true ∧ k < UInt64.size ∧ ∀ j, n ≤ j → j < k → passes j = false := by
  induction n using leastFrom.induct passes with
  | case1 n hn hpass =>
      rw [leastFrom, if_pos hn, if_pos hpass] at h
      obtain rfl := Option.some.inj h
      exact ⟨hpass, hn, fun j hle hlt => absurd hlt (Nat.not_lt.mpr hle)⟩
  | case2 n hn hpass ih =>
      rw [leastFrom, if_pos hn, if_neg hpass] at h
      obtain ⟨hk, hsize, hleast⟩ := ih h
      refine ⟨hk, hsize, fun j hle hlt => ?_⟩
      rcases Nat.eq_or_lt_of_le hle with rfl | hgt
      · exact Bool.eq_false_iff.mpr hpass
      · exact hleast j hgt hlt
  | case3 n hn =>
      rw [leastFrom, if_neg hn] at h
      cases h

theorem hashed_with_nonce (m : Message) (nonce : Nat) (h : nonce < UInt64.size) :
    hashed { m with nonce := .ofNat nonce } = canonicalBytes m ++ nonceBytes nonce := by
  have hnonce : (UInt64.ofNat nonce).toNat = nonce := UInt64.toNat_ofNat_of_lt' h
  simp only [hashed, hnonce]
  rfl

-- A stamp changes the nonce alone, and makes the message pass.
theorem stamp?_eq_some {H : Digest} {d : Difficulty} {m s : Message} (h : stamp? H d m = some s) :
    (∃ nonce, s = { m with nonce }) ∧ isValid H d s = true := by
  simp only [stamp?, Option.map_eq_some_iff] at h
  obtain ⟨nonce, hleast, rfl⟩ := h
  obtain ⟨hpass, hsize, _⟩ := leastFrom_eq_some hleast
  refine ⟨⟨_, rfl⟩, ?_⟩
  rw [isValid, hashed_with_nonce m nonce hsize, H.hash_append]
  exact hpass

-- A stamp that cost more work passes where less is asked for.
theorem isValid_mono {H : Digest} {easy hard : Difficulty} {m : Message}
    (hle : easy.zeros ≤ hard.zeros) (h : isValid H hard m = true) : isValid H easy m = true :=
  Difficulty.leadingZeros_mono hle h

-- With nothing asked for, the first nonce will do.
theorem stamp?_none (H : Digest) (m : Message) : stamp? H .none m = some { m with nonce := 0 } := by
  rw [stamp?, leastFrom]
  rfl

theorem isSome_stamp?_none (H : Digest) (m : Message) : (stamp? H .none m).isSome = true := by
  rw [stamp?_none]
  rfl

end Rumor.Stamp
