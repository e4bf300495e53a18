import Rumor.Proofs.Bytes
import Rumor.Record

namespace Rumor.Varint

-- The least number that needs more than `n` bytes.
def limit : Nat → Nat
  | 0 => 1
  | n + 1 => 128 * limit n

theorem limit_pos (n : Nat) : 0 < limit n := by
  induction n with
  | zero => decide
  | succ n ih =>
      rw [limit]
      omega

theorem encode_of_lt {n : Nat} (h : n < 128) : encode n = [.ofNat n] := by
  rw [encode, if_pos h]

theorem encode_of_le {n : Nat} (h : 128 ≤ n) :
    encode n = .ofNat (128 + n % 128) :: encode (n / 128) := by
  rw [encode, if_neg (by omega)]

theorem length_encode_pos (n : Nat) : 0 < (encode n).length := by
  by_cases h : n < 128
  · simp [encode_of_lt h]
  · simp [encode_of_le (Nat.not_lt.mp h)]

theorem length_encode_le_iff (k n : Nat) : (encode n).length ≤ k + 1 ↔ n < limit (k + 1) := by
  induction k generalizing n with
  | zero =>
      by_cases h : n < 128
      · simpa [encode_of_lt h, limit] using h
      · have hpos := length_encode_pos (n / 128)
        simp only [encode_of_le (Nat.not_lt.mp h), List.length_cons, limit]
        omega
  | succ k ih =>
      have hpos := limit_pos k
      rw [limit]
      by_cases h : n < 128
      · simp only [encode_of_lt h, List.length_singleton, limit]
        omega
      · rw [encode_of_le (Nat.not_lt.mp h), List.length_cons, Nat.add_le_add_iff_right, ih]
        omega

theorem length_encode_mono {m n : Nat} (h : m ≤ n) : (encode m).length ≤ (encode n).length := by
  obtain ⟨k, hk⟩ : ∃ k, (encode n).length = k + 1 :=
    ⟨_, (Nat.succ_pred_eq_of_pos (length_encode_pos n)).symm⟩
  rw [hk, length_encode_le_iff]
  exact Nat.lt_of_le_of_lt h ((length_encode_le_iff k n).mp (Nat.le_of_eq hk))

section Framed

-- The size of `n` bytes with their number in front.
def framed (n : Nat) : Nat :=
  (encode n).length + n

theorem framed_mono {m n : Nat} (h : m ≤ n) : framed m ≤ framed n :=
  Nat.add_le_add (length_encode_mono h) h

theorem length_encode_le_three {n : Nat} (h : n ≤ 65536) : (encode n).length ≤ 3 := by
  rw [length_encode_le_iff]
  exact Nat.lt_of_le_of_lt h (by decide)

theorem three_le_length_encode {n : Nat} (h : 16384 ≤ n) : 3 ≤ (encode n).length := by
  have hlong : ¬(encode n).length ≤ 1 + 1 := by
    rw [length_encode_le_iff]
    exact Nat.not_lt.mpr h
  omega

end Framed

-- The forms of a number: seven bits a byte, lowest first, and a high bit on every byte but
-- the last. Those that end in bytes without bits are longer than they need to be.
inductive Form : Nat → Bytes → Prop
  | last {b : UInt8} (h : b < 128) : Form b.toNat [b]
  | more {b : UInt8} {n : Nat} {rest : Bytes} (h : ¬b < 128) (hrest : Form n rest) :
      Form (b.toNat % 128 + 128 * n) (b :: rest)

theorem form_encode (n : Nat) : Form n (encode n) := by
  induction n using encode.induct with
  | case1 n hsmall =>
      have hvalue : (UInt8.ofNat n).toNat = n := by
        rw [UInt8.toNat_ofNat']
        omega
      have hlast : UInt8.ofNat n < 128 := by
        rw [UInt8.lt_iff_toNat_lt, hvalue]
        exact hsmall
      have hform := Form.last hlast
      rwa [hvalue, ← encode_of_lt hsmall] at hform
  | case2 n hlarge ih =>
      have hvalue : (UInt8.ofNat (128 + n % 128)).toNat = 128 + n % 128 := by
        rw [UInt8.toNat_ofNat']
        omega
      have hmore : ¬UInt8.ofNat (128 + n % 128) < 128 := by
        rw [UInt8.lt_iff_toNat_lt, hvalue]
        exact Nat.not_lt.mpr (Nat.le_add_right _ _)
      have hform := Form.more hmore ih
      have hbits : (128 + n % 128) % 128 + 128 * (n / 128) = n := by omega
      rwa [hvalue, hbits, ← encode_of_le (Nat.not_lt.mp hlarge)] at hform

section Form

variable {m n left : Nat} {form form' tail tail' : Bytes} {input : Input}

-- A form is over where its high bits are, so none of them begins another.
theorem Form.unique (h : Form m form) (h' : Form n form') (heq : form ++ tail = form' ++ tail') :
    m = n ∧ form = form' := by
  induction h generalizing n form' with
  | last hlast =>
      cases h' with
      | last _ =>
          obtain ⟨rfl, _⟩ := List.cons.inj heq
          exact ⟨rfl, rfl⟩
      | more hmore _ =>
          obtain ⟨rfl, _⟩ := List.cons.inj heq
          exact absurd hlast hmore
  | more hmore _ ih =>
      cases h' with
      | last hlast =>
          obtain ⟨rfl, _⟩ := List.cons.inj heq
          exact absurd hlast hmore
      | more _ hrest =>
          obtain ⟨rfl, hrests⟩ := List.cons.inj heq
          obtain ⟨rfl, rfl⟩ := ih hrest hrests
          exact ⟨rfl, rfl⟩

-- No form of a number is shorter than the one that is written.
theorem Form.length_encode_le (h : Form n form) : (encode n).length ≤ form.length := by
  induction h with
  | last hlast =>
      rw [encode_of_lt (UInt8.lt_iff_toNat_lt.mp hlast)]
      exact Nat.le_refl _
  | @more b n rest _ _ ih =>
      by_cases hsmall : b.toNat % 128 + 128 * n < 128
      · rw [encode_of_lt hsmall, List.length_singleton, List.length_cons]
        omega
      · have hdiv : (b.toNat % 128 + 128 * n) / 128 = n := by omega
        rw [encode_of_le (Nat.not_lt.mp hsmall), hdiv, List.length_cons, List.length_cons]
        omega

theorem Form.length_pos (h : Form n form) : 0 < form.length := by
  cases h <;> exact Nat.succ_pos _

-- The last byte that may be read holds one bit, each byte before it seven.
theorem last_fits_iff {b : UInt8} (h : b < 128) (left : Nat) :
    ¬(left = 0 ∧ 1 < b) ↔ b.toNat < 2 * limit left := by
  have hlow : b.toNat < 128 := UInt8.lt_iff_toNat_lt.mp h
  rw [UInt8.lt_iff_toNat_lt, UInt8.toNat_one]
  cases left with
  | zero =>
      rw [limit]
      omega
  | succ left =>
      have hpos := limit_pos left
      rw [limit]
      omega

theorem Form.exists_readWithin (h : Form n form) (hlength : form.length ≤ left + 1)
    (hn : n < 2 * limit left) (hinput : input.bytes = form ++ tail) :
    ∃ rest, readWithin (left + 1) input = some (n, rest) ∧ rest.val.bytes = tail := by
  induction h generalizing left input with
  | @last b hlast =>
      obtain ⟨rest, hnext, hrest⟩ := Input.exists_next hinput
      refine ⟨rest, ?_, hrest⟩
      rw [readWithin, hnext]
      dsimp only
      rw [if_pos hlast, if_neg ((last_fits_iff hlast left).mpr hn)]
  | @more b n form hmore hform ih =>
      -- something follows, so this is not the last byte that may be read
      have hpos := hform.length_pos
      rw [List.length_cons] at hlength
      obtain ⟨left, rfl⟩ : ∃ k, left = k + 1 := ⟨left - 1, by omega⟩
      rw [limit] at hn
      have hhigh : n < 2 * limit left := by omega
      obtain ⟨rest, hnext, hrest⟩ := Input.exists_next hinput
      obtain ⟨last, hread, hlast⟩ := ih (by omega) hhigh hrest
      refine ⟨rest.next last, ?_, hlast⟩
      rw [readWithin, hnext]
      dsimp only
      rw [if_neg hmore, hread]

theorem exists_form_of_readWithin {rest : input.Rest} (h : readWithin left input = some (n, rest)) :
    ∃ form, Form n form ∧ form.length ≤ left ∧ n < 2 * limit (left - 1) ∧
      input.bytes = form ++ rest.val.bytes := by
  induction left generalizing n input with
  | zero => cases h
  | succ left ih =>
      rw [readWithin] at h
      split at h
      · cases h
      · rename_i b after hnext
        split at h
        · rename_i hb
          split at h
          · cases h
          · rename_i hbits
            obtain ⟨rfl, rfl⟩ := Prod.mk.inj (Option.some.inj h)
            exact ⟨[b], .last hb, Nat.le_add_left 1 _, (last_fits_iff hb left).mp hbits,
              Input.bytes_of_next hnext⟩
        · rename_i hb
          split at h
          · cases h
          · rename_i high last hread
            obtain ⟨rfl, rfl⟩ := Prod.mk.inj (Option.some.inj h)
            obtain ⟨form, hform, hlength, hhigh, hbytes⟩ := ih hread
            have hsome := hform.length_pos
            obtain ⟨left, rfl⟩ : ∃ k, left = k + 1 := ⟨left - 1, by omega⟩
            refine ⟨b :: form, .more hb hform, Nat.succ_le_succ hlength, ?_, ?_⟩
            · rw [Nat.add_sub_cancel] at hhigh ⊢
              rw [limit]
              omega
            · rw [Input.bytes_of_next hnext, hbytes]
              rfl

end Form

section Written

-- The forms that a number with 64 bits has in a record.
structure Written (n : Nat) (bytes : Bytes) : Prop where
  form : Form n bytes
  length_le : bytes.length ≤ 10
  lt : n < UInt64.size

variable {n size : Nat} {form tail : Bytes} {input : Input}

theorem written_encode (h : n < UInt64.size) : Written n (encode n) where
  form := form_encode n
  length_le := (length_encode_le_iff 9 n).mpr (Nat.lt_trans h (by decide))
  lt := h

theorem Written.exists_read (h : Written n form) (hinput : input.bytes = form ++ tail) :
    ∃ rest, read input = some (n, rest) ∧ rest.val.bytes = tail :=
  h.form.exists_readWithin h.length_le (show n < 2 * limit 9 from h.lt) hinput

theorem exists_written_of_read {rest : input.Rest} (h : read input = some (n, rest)) :
    ∃ form, Written n form ∧ input.bytes = form ++ rest.val.bytes := by
  obtain ⟨form, hform, hlength, hn, hbytes⟩ := exists_form_of_readWithin h
  exact ⟨form, ⟨hform, hlength, hn⟩, hbytes⟩

theorem length_le_of_read {rest : input.Rest} (h : read input = some (n, rest)) :
    (encode n).length + rest.val.size ≤ input.size := by
  obtain ⟨form, hwritten, hbytes⟩ := exists_written_of_read h
  have hlength := hwritten.form.length_encode_le
  have hinput := input.size_eq
  have hrest := rest.val.size_eq
  rw [hbytes, List.length_append] at hinput
  omega

-- What is begun and not complete is not read.
theorem read_of_cut (hsize : size < (encode n).length)
    (hinput : input.bytes = (encode n).take size) : read input = none := by
  rw [Option.eq_none_iff_forall_ne_some]
  rintro ⟨m, rest⟩ hread
  obtain ⟨form, hwritten, hbytes⟩ := exists_written_of_read hread
  have hjoin : form ++ (rest.val.bytes ++ (encode n).drop size) = encode n ++ [] := by
    rw [← List.append_assoc, ← hbytes, hinput, List.take_append_drop, List.append_nil]
  obtain ⟨_, rfl⟩ := hwritten.form.unique (form_encode n) hjoin
  have hlength := congrArg List.length (hbytes.symm.trans hinput)
  rw [List.length_append, List.length_take] at hlength
  omega

theorem read_of_too_large (h : UInt64.size ≤ n) (hinput : input.bytes = encode n ++ tail) :
    read input = none := by
  rw [Option.eq_none_iff_forall_ne_some]
  rintro ⟨m, rest⟩ hread
  obtain ⟨form, hwritten, hbytes⟩ := exists_written_of_read hread
  obtain ⟨rfl, _⟩ := hwritten.form.unique (form_encode n) (hbytes.symm.trans hinput)
  exact Nat.not_lt.mpr h hwritten.lt

end Written

end Rumor.Varint
