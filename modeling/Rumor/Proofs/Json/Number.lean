import Mathlib.Tactic.IntervalCases
import Rumor.Proofs.Digits
import Rumor.Proofs.Json

-- The integers that are written are read back.
namespace Rumor.Json

open Token (Lexer isDigit)

-- The byte that a digit is written as.
def digitByte (d : Nat) : UInt8 :=
  .ofNat (0x30 + d)

theorem isDigit_digitByte : ∀ d < 10, isDigit (digitByte d) = true := by
  decide

theorem toNat_digitByte : ∀ d < 10, (digitByte d).toNat - 0x30 = d := by
  decide

theorem val_digit : ∀ d < 10, (Decimal.digit d).val.toUInt8 = digitByte d := by
  decide

theorem ascii_ofNat_of_lt {n : Nat} (h : n < 10) :
    Bytes.ascii (Decimal.ofNat n) = [digitByte n] := by
  rw [Bytes.ascii, Decimal.ofNat, String.toList_ofList, Decimal.digits_of_lt h, List.map_singleton,
    val_digit n h]

theorem ascii_ofNat_of_le {n : Nat} (h : 10 ≤ n) :
    Bytes.ascii (Decimal.ofNat n) = Bytes.ascii (Decimal.ofNat (n / 10)) ++
      [digitByte (n % 10)] := by
  simp only [Bytes.ascii, Decimal.ofNat, String.toList_ofList]
  rw [Decimal.digits_of_le h, List.map_append, List.map_singleton,
    val_digit _ (Nat.mod_lt n (by decide))]

theorem ascii_ofInt_negSucc (n : Nat) :
    Bytes.ascii (Decimal.ofInt (.negSucc n)) = 0x2D :: Bytes.ascii (Decimal.ofNat (n + 1)) := by
  simp only [Bytes.ascii, Decimal.ofInt, Decimal.ofNat, String.toList_ofList]
  rfl

section Reading

variable {text : Bytes} {n d : Nat}

theorem natural?_append_digit (h : Value.natural? text = some n) (hd : d < 10) :
    Value.natural? (text ++ [digitByte d]) = some (10 * n + d) := by
  unfold Value.natural? at h ⊢
  split at h
  · rename_i hall
    have hread := Option.some.inj h
    have hdigits : (text ++ [digitByte d]).all isDigit = true := by
      simp [hall, isDigit_digitByte d hd]
    rw [if_pos hdigits, List.foldl_append, hread, List.foldl_cons, List.foldl_nil,
      toNat_digitByte d hd]
  · cases h

theorem natural?_ofNat (n : Nat) : Value.natural? (Bytes.ascii (Decimal.ofNat n)) = some n := by
  induction n using Nat.strongRecOn with
  | ind n ih =>
      rcases Nat.lt_or_ge n 10 with hn | hn
      · rw [ascii_ofNat_of_lt hn, Value.natural?, if_pos (by simp [isDigit_digitByte n hn])]
        simp [toNat_digitByte n hn]
      · have hback : 10 * (n / 10) + n % 10 = n := Nat.div_add_mod n 10
        rw [ascii_ofNat_of_le hn,
          natural?_append_digit (ih (n / 10) (by omega)) (Nat.mod_lt n (by decide)), hback]

-- A number that begins with a sign is no natural one.
theorem integer?_of_natural? (h : Value.natural? text = some n) :
    Value.integer? (.number text) = some (.ofNat n) := by
  unfold Value.integer?
  split
  · rename_i hnumber
    obtain rfl := Value.number.inj hnumber
    cases h
  · rename_i hnumber
    obtain rfl := Value.number.inj hnumber
    rw [h]
    rfl
  · rename_i hother
    exact absurd rfl (hother text)

theorem integer?_ofInt (n : Int) :
    Value.integer? (.number (Bytes.ascii (Decimal.ofInt n))) = some n := by
  cases n with
  | ofNat n => exact integer?_of_natural? (natural?_ofNat n)
  | negSucc n => rw [ascii_ofInt_negSucc, Value.integer?, natural?_ofNat]

end Reading

section Lexing

variable {s : Lexer} {read : Bytes}

-- Digits may begin in `s`, and if the first is a zero, it is the only one.
def Begins (s : Lexer) (read : Bytes) : Prop :=
  ∀ d < 10,
    s.step (digitByte d) =
      some ⟨.number (if d = 0 then .zero else .whole) (digitByte d :: read), s.tokens⟩

theorem begins_between (before : List Token) : Begins ⟨.between, before⟩ [] := by
  intro d hd
  interval_cases d <;> rfl

theorem begins_minus (before : List Token) (read : Bytes) :
    Begins ⟨.number .minus read, before⟩ read := by
  intro d hd
  interval_cases d <;> rfl

theorem step_whole {d : Nat} (hd : d < 10) (read : Bytes) (before : List Token) :
    Lexer.step ⟨.number .whole read, before⟩ (digitByte d) =
      some ⟨.number .whole (digitByte d :: read), before⟩ := by
  simp [Lexer.step, Token.Digits.next?, isDigit_digitByte d hd]

-- The digits in front of the last are those of a number greater than zero, so they do not
-- begin with a zero.
theorem foldlM_step_ofNat (h : Begins s read) (n : Nat) :
    (Bytes.ascii (Decimal.ofNat n)).foldlM Lexer.step s =
      some ⟨.number (if n = 0 then .zero else .whole) ((Bytes.ascii (Decimal.ofNat n)).reverse ++
        read), s.tokens⟩ := by
  induction n using Nat.strongRecOn with
  | ind n ih =>
      rcases Nat.lt_or_ge n 10 with hn | hn
      · rw [ascii_ofNat_of_lt hn]
        simpa using h n hn
      · have hfront : n / 10 ≠ 0 := by omega
        have hwhole : n ≠ 0 := by omega
        rw [ascii_ofNat_of_le hn, List.foldlM_append, ih (n / 10) (by omega), if_neg hfront,
          if_neg hwhole]
        simp [step_whole (Nat.mod_lt n (by decide : 0 < 10))]

-- What follows a number that is complete is read as if it stood alone.
theorem step_number {at_ : Token.Digits} {b : UInt8} (hat : at_.complete = true) (hb : Delimits b)
    (read : Bytes) (before : List Token) :
    Lexer.step ⟨.number at_ read, before⟩ b =
      Lexer.step ⟨.between, .number read.reverse :: before⟩ b := by
  simp [Lexer.step, hb at_, hat]

theorem lexedUpTo_of_number {bytes : Bytes} {at_ : Token.Digits} (hat : at_.complete = true)
    (h : ∀ before, bytes.foldlM Lexer.step ⟨.between, before⟩ = some ⟨.number at_ bytes.reverse, before⟩) :
    LexedUpTo bytes [.number bytes] := by
  intro before b hb
  rw [List.foldlM_append, h before]
  simpa using step_number hat hb bytes.reverse before

theorem lexedUpTo_integer (n : Int) :
    LexedUpTo (Bytes.ascii (Decimal.ofInt n)) [.number (Bytes.ascii (Decimal.ofInt n))] := by
  have hcomplete (n : Nat) : (if n = 0 then Token.Digits.zero else .whole).complete = true := by
    split <;> rfl
  cases n with
  | ofNat n =>
      refine lexedUpTo_of_number (hcomplete n) fun before => ?_
      have hdigits := foldlM_step_ofNat (begins_between before) n
      rw [List.append_nil] at hdigits
      exact hdigits
  | negSucc n =>
      refine lexedUpTo_of_number (hcomplete (n + 1)) fun before => ?_
      have hsign : Lexer.step ⟨.between, before⟩ 0x2D = some ⟨.number .minus [0x2D], before⟩ := rfl
      rw [ascii_ofInt_negSucc, List.foldlM_cons, hsign]
      simpa using foldlM_step_ofNat (begins_minus before [0x2D]) (n + 1)

end Lexing

end Rumor.Json
