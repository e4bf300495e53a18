import Rumor.Proofs.Bytes
import Rumor.Text.Utf8

namespace Rumor.Utf8

theorem lead?_of_two :
    ∀ q < 32, 2 ≤ q → lead? (.ofNat (0xC0 + q)) = some ⟨1, 1, 0x80, 0xBF, q⟩ := by
  decide

theorem lead?_of_three : ∀ q < 16, lead? (.ofNat (0xE0 + q)) =
    some ⟨1, 2, if q = 0 then 0xA0 else 0x80, if q = 13 then 0x9F else 0xBF, q⟩ := by
  decide

theorem lead?_of_four : ∀ q < 5, lead? (.ofNat (0xF0 + q)) =
    some ⟨1, 3, if q = 0 then 0x90 else 0x80, if q = 4 then 0x8F else 0xBF, q⟩ := by
  decide

theorem step_ascii {n : Nat} (pieces : List Piece) (h : n < 0x80) :
    Scan.step ⟨pieces, none⟩ (.ofNat n) = ⟨.char (Char.ofNat n) :: pieces, none⟩ := by
  have hvalue : (UInt8.ofNat n).toNat = n := by
    rw [UInt8.toNat_ofNat']
    exact Nat.mod_eq_of_lt (by omega)
  have hbyte : UInt8.ofNat n < 0x80 := by
    rw [UInt8.lt_iff_toNat_lt, hvalue]
    exact h
  rw [Scan.step, Scan.begin, if_pos hbyte, hvalue]

theorem le_of_lead? {b : UInt8} {p : Pending} (h : lead? b = some p) : 0x80 ≤ b := by
  unfold lead? at h
  simp only [UInt8.le_iff_toNat_le, ← UInt8.toNat_inj] at h ⊢
  grind

theorem step_lead {b : UInt8} {p : Pending} (pieces : List Piece) (h : lead? b = some p) :
    Scan.step ⟨pieces, none⟩ b = ⟨pieces, some p⟩ := by
  rw [Scan.step, Scan.begin, if_neg (UInt8.not_lt.mpr (le_of_lead? h)), h]

-- A byte that carries six bits, in the range that is asked for.
theorem step_tail {p : Pending} {n : Nat} (pieces : List Piece) (hlow : p.low.toNat ≤ 0x80 + n % 64)
    (hhigh : 0x80 + n % 64 ≤ p.high.toNat) :
    Scan.step ⟨pieces, some p⟩ (.ofNat (0x80 + n % 64)) =
      if p.need ≤ 1 then ⟨.char (Char.ofNat (64 * p.bits + n % 64)) :: pieces, none⟩
      else ⟨pieces, some ⟨p.width + 1, p.need - 1, 0x80, 0xBF, 64 * p.bits + n % 64⟩⟩ := by
  have hvalue : (UInt8.ofNat (0x80 + n % 64)).toNat = 0x80 + n % 64 := by
    rw [UInt8.toNat_ofNat']
    exact Nat.mod_eq_of_lt (by omega)
  have hrange : p.low ≤ .ofNat (0x80 + n % 64) ∧ .ofNat (0x80 + n % 64) ≤ p.high := by
    rw [UInt8.le_iff_toNat_le, UInt8.le_iff_toNat_le, hvalue]
    exact ⟨hlow, hhigh⟩
  have hbits : (0x80 + n % 64) % 64 = n % 64 := by omega
  simp only [Scan.step, if_pos hrange, hvalue, hbits]

theorem foldl_step_encodeChar (pieces : List Piece) (c : Char) :
    (encodeChar c).foldl Scan.step ⟨pieces, none⟩ = ⟨.char c :: pieces, none⟩ := by
  have hback : Char.ofNat c.toNat = c := Char.ofNat_toNat c
  have hvalid : c.toNat < 0xD800 ∨ 0xDFFF < c.toNat ∧ c.toNat < 0x110000 := c.valid
  unfold encodeChar
  generalize c.toNat = n at hback hvalid
  dsimp only
  by_cases h1 : n < 0x80
  · rw [if_pos h1, List.foldl_cons, List.foldl_nil, step_ascii pieces h1, hback]
  by_cases h2 : n < 0x800
  · have hbits : 64 * (n / 64) + n % 64 = n := by omega
    rw [if_neg h1, if_pos h2]
    simp only [List.foldl_cons, List.foldl_nil]
    rw [step_lead pieces (lead?_of_two (n / 64) (by omega) (by omega)),
      step_tail pieces (by simp) (by simp; omega)]
    simp [hbits, hback]
  by_cases h3 : n < 0x10000
  · have hbits : 64 * (64 * (n / 4096) + n / 64 % 64) + n % 64 = n := by omega
    have hlow : (if n / 4096 = 0 then (0xA0 : UInt8) else 0x80).toNat ≤ 0x80 + n / 64 % 64 := by
      split
      · simp
        omega
      · simp
    have hhigh : 0x80 + n / 64 % 64 ≤ (if n / 4096 = 13 then (0x9F : UInt8) else 0xBF).toNat := by
      split <;> (simp; omega)
    rw [if_neg h1, if_neg h2, if_pos h3]
    simp only [List.foldl_cons, List.foldl_nil]
    rw [step_lead pieces (lead?_of_three (n / 4096) (by omega)),
      step_tail pieces hlow hhigh, if_neg (by simp), step_tail pieces (by simp) (by simp; omega)]
    simp [hbits, hback]
  · have hbits : 64 * (64 * (64 * (n / 262144) + n / 4096 % 64) + n / 64 % 64) + n % 64 = n := by
      omega
    have hlow : (if n / 262144 = 0 then (0x90 : UInt8) else 0x80).toNat ≤ 0x80 + n / 4096 % 64 := by
      split
      · simp
        omega
      · simp
    have hhigh :
        0x80 + n / 4096 % 64 ≤ (if n / 262144 = 4 then (0x8F : UInt8) else 0xBF).toNat := by
      split <;> (simp; omega)
    rw [if_neg h1, if_neg h2, if_neg h3]
    simp only [List.foldl_cons, List.foldl_nil]
    rw [step_lead pieces (lead?_of_four (n / 262144) (by omega)),
      step_tail pieces hlow hhigh, if_neg (by simp), step_tail pieces (by simp) (by simp; omega),
      if_neg (by simp), step_tail pieces (by simp) (by simp; omega)]
    simp [hbits, hback]

theorem foldl_step_encode (pieces : List Piece) (chars : List Char) :
    (chars.flatMap encodeChar).foldl Scan.step ⟨pieces, none⟩ =
      ⟨(chars.map Piece.char).reverse ++ pieces, none⟩ := by
  induction chars generalizing pieces with
  | nil => rfl
  | cons c rest ih =>
      rw [List.flatMap_cons, List.foldl_append, foldl_step_encodeChar, ih]
      simp

theorem scan_encode (text : String) :
    scan (encode text) = ⟨(text.toList.map Piece.char).reverse, none⟩ := by
  rw [scan, encode, foldl_step_encode, List.append_nil]

theorem collect_chars (chars text : List Char) (index : Nat) :
    collect false text index (chars.map Piece.char) =
      .ok (String.ofList (text.reverse ++ chars)) := by
  induction chars generalizing text index with
  | nil => simp [collect]
  | cons c rest ih =>
      rw [List.map_cons, collect, ih]
      simp

theorem decode_encode (text : String) : decode (encode text) = .ok text := by
  rw [decode, scan_encode]
  simp [collect_chars]

theorem encode_inj {a b : String} (h : encode a = encode b) : a = b := by
  have hback := decode_encode a
  rw [h, decode_encode] at hback
  exact (Except.ok.inj hback).symm

theorem encode_eq_nil_iff (text : String) : encode text = [] ↔ text = "" := by
  constructor
  · intro h
    have hback := decode_encode text
    rw [h] at hback
    exact (Except.ok.inj hback).symm
  · rintro rfl
    rfl

theorem length_encodeChar_pos (c : Char) : 0 < (encodeChar c).length := by
  unfold encodeChar
  dsimp only
  repeat' split
  all_goals exact Nat.succ_pos _

theorem length_le_length_encode (text : String) : text.toList.length ≤ (encode text).length :=
  Bytes.length_le_length_flatMap length_encodeChar_pos text.toList

theorem encode_append (a b : String) : encode (a ++ b) = encode a ++ encode b := by
  simp [encode]

theorem encodeChar_ascii : ∀ n < 0x80, encodeChar (Char.ofNat n) = [.ofNat n] := by
  decide

-- The bytes of all other characters are none of those that ASCII uses.
theorem le_of_mem_encodeChar {c : Char} (h : 0x80 ≤ c.toNat) : ∀ b ∈ encodeChar c, 0x80 ≤ b := by
  have hbyte {k : Nat} (hlow : 0x80 ≤ k) (hhigh : k < 256) : 0x80 ≤ UInt8.ofNat k := by
    rw [UInt8.le_iff_toNat_le, UInt8.toNat_ofNat_of_lt' hhigh]
    exact hlow
  have hlast : c.toNat < 0x110000 := by
    have hvalid : c.toNat < 0xD800 ∨ 0xDFFF < c.toNat ∧ c.toNat < 0x110000 := c.valid
    omega
  unfold encodeChar
  generalize c.toNat = n at h hlast
  dsimp only
  rw [if_neg (Nat.not_lt.mpr h)]
  repeat' split
  all_goals
    simp only [List.mem_cons, List.not_mem_nil, or_false, forall_eq_or_imp, forall_eq]
    repeat' apply And.intro
    all_goals exact hbyte (by omega) (by omega)

section Written

variable {bytes bytes' : Bytes}

-- Bytes that some text is written as.
def IsText (bytes : Bytes) : Prop :=
  ∃ text, bytes = encode text

theorem isText_of_ascii (h : bytes.all (· < 0x80) = true) : IsText bytes := by
  have hbyte : ∀ b ∈ bytes, encodeChar (Char.ofNat b.toNat) = [b] := by
    intro b hb
    have hascii : b < 0x80 := of_decide_eq_true (List.all_eq_true.mp h b hb)
    rw [encodeChar_ascii b.toNat (UInt8.lt_iff_toNat_lt.mp hascii), UInt8.ofNat_toNat]
  refine ⟨String.ofList (bytes.map fun b => Char.ofNat b.toNat), ?_⟩
  rw [encode, String.toList_ofList, List.flatMap_map, List.flatMap_def, List.map_congr_left hbyte,
    ← List.flatMap_def]
  simp

theorem IsText.append (h : IsText bytes) (h' : IsText bytes') : IsText (bytes ++ bytes') := by
  obtain ⟨text, rfl⟩ := h
  obtain ⟨text', rfl⟩ := h'
  exact ⟨text ++ text', (encode_append text text').symm⟩

theorem isText_flatMap {α : Type} {f : α → Bytes} (h : ∀ a, IsText (f a)) (list : List α) :
    IsText (list.flatMap f) := by
  induction list with
  | nil => exact ⟨"", rfl⟩
  | cons a rest ih => exact (h a).append ih

theorem isText_intercalate {separator : Bytes} (hseparator : IsText separator) {parts : List Bytes}
    (h : ∀ part ∈ parts, IsText part) : IsText (List.intercalate separator parts) := by
  induction parts with
  | nil => exact ⟨"", rfl⟩
  | cons part rest ih =>
      have hrest := ih fun part hpart => h part (List.mem_cons_of_mem _ hpart)
      cases rest with
      | nil => simpa using h part List.mem_cons_self
      | cons next rest =>
          rw [List.intercalate_cons_cons]
          exact ((h part List.mem_cons_self).append hseparator).append hrest

end Written

end Rumor.Utf8
