import Rumor.Bytes

namespace Rumor

namespace Bytes

theorem word_ofWord (w : UInt16) : word (w >>> 8).toUInt8 w.toUInt8 = w := by
  have hlt : w.toNat < 65536 := w.toNat_lt
  have hhigh : (w >>> 8).toUInt8.toUInt16.toNat = w.toNat / 256 := by
    simp [Nat.shiftRight_eq_div_pow]
    omega
  have hlow : w.toUInt8.toUInt16.toNat = w.toNat % 256 := by simp
  have hshift : (w.toNat / 256) <<< 8 % 65536 = (w.toNat / 256) <<< 8 := by
    rw [Nat.shiftLeft_eq]
    omega
  apply UInt16.toNat_inj.mp
  rw [word, UInt16.toNat_or, UInt16.toNat_shiftLeft, hhigh, hlow]
  change (w.toNat / 256) <<< 8 % 65536 ||| w.toNat % 256 = w.toNat
  rw [hshift, ← Nat.shiftLeft_add_eq_or_of_lt (by omega), Nat.shiftLeft_eq]
  omega

theorem ofWord_word (high low : UInt8) : ofWord (word high low) = [high, low] := by
  have hhigh : high.toNat < 256 := high.toNat_lt
  have hlow : low.toNat < 256 := low.toNat_lt
  have hword : (word high low).toNat = 256 * high.toNat + low.toNat := by
    rw [word, UInt16.toNat_or, UInt16.toNat_shiftLeft, UInt8.toNat_toUInt16, UInt8.toNat_toUInt16]
    change high.toNat <<< 8 % 65536 ||| low.toNat = 256 * high.toNat + low.toNat
    rw [Nat.mod_eq_of_lt (by rw [Nat.shiftLeft_eq]; omega),
      ← Nat.shiftLeft_add_eq_or_of_lt (by omega), Nat.shiftLeft_eq]
    omega
  have hfirst : (word high low >>> 8).toUInt8 = high := by
    apply UInt8.toNat_inj.mp
    simp [hword, Nat.shiftRight_eq_div_pow]
    omega
  have hsecond : (word high low).toUInt8 = low := by
    apply UInt8.toNat_inj.mp
    simp [hword]
  rw [ofWord, hfirst, hsecond]

theorem length_le_length_flatMap {α : Type} {f : α → Bytes} (h : ∀ a, 0 < (f a).length)
    (list : List α) : list.length ≤ (list.flatMap f).length := by
  induction list with
  | nil => exact Nat.zero_le _
  | cons a rest ih =>
      have ha := h a
      rw [List.flatMap_cons, List.length_append, List.length_cons]
      omega

end Bytes

namespace Input

theorem exists_next {input : Input} {b : UInt8} {tail : Bytes} (h : input.bytes = b :: tail) :
    ∃ rest, input.next? = some (b, rest) ∧ rest.val.bytes = tail := by
  obtain ⟨bytes, size, hsize⟩ := input
  obtain rfl : bytes = b :: tail := h
  exact ⟨_, rfl, rfl⟩

theorem bytes_of_next {input : Input} {b : UInt8} {rest : input.Rest}
    (h : input.next? = some (b, rest)) : input.bytes = b :: rest.val.bytes := by
  obtain ⟨bytes, size, hsize⟩ := input
  cases bytes with
  | nil => cases h
  | cons c tail =>
      obtain ⟨rfl, rfl⟩ : c = b ∧ _ = rest := by simpa [next?] using h
      rfl

theorem exists_take {input : Input} {first tail : Bytes} (h : input.bytes = first ++ tail) :
    ∃ rest, input.take? first.length = some (first, rest) ∧ rest.val.bytes = tail := by
  have hsize := input.size_eq
  rw [h, List.length_append] at hsize
  unfold take?
  rw [if_pos (by omega)]
  simp [h]

theorem size_of_take {input : Input} {n : Nat} {first : Bytes} {rest : input.Tail}
    (h : input.take? n = some (first, rest)) :
    first.length = n ∧ n + rest.val.size = input.size := by
  unfold take? at h
  split at h
  · rename_i hle
    obtain ⟨rfl, rfl⟩ := Prod.mk.inj (Option.some.inj h)
    have hsize := input.size_eq
    simp only [List.length_take]
    omega
  · cases h

end Input

end Rumor
