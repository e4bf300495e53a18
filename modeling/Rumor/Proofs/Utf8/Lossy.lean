import Rumor.Proofs.Utf8

-- What the decoder shows for bytes that need not be text, said without its states: each
-- character, and one replacement character for each part that goes wrong.
namespace Rumor.Utf8

-- Some character begins with these bytes, or is all of them.
def Begins (part : Bytes) : Prop :=
  ∃ c, part <+: encodeChar c

-- A part that no character comes of. It goes on as long as a character may begin like it,
-- and is one byte long if none begins with that byte.
structure Broken (part rest : Bytes) : Prop where
  nonempty : part ≠ []
  begins : part.length = 1 ∨ Begins part
  no_char : ∀ c, ¬encodeChar c <+: part ++ rest
  longest : ∀ b ∈ rest.head?, ¬Begins (part ++ [b])

inductive Shows : Bytes → List Char → Prop
  | nil : Shows [] []
  | char (c : Char) {rest : Bytes} {text : List Char} (hrest : Shows rest text) :
      Shows (encodeChar c ++ rest) (c :: text)
  | broken {part rest : Bytes} {text : List Char} (hbroken : Broken part rest)
      (hrest : Shows rest text) :
      Shows (part ++ rest) ('\uFFFD' :: text)

section Begun

-- The three lengths, and the bounds that the first byte sets for the second.
theorem lead?_cases {b : UInt8} {p : Pending} (h : lead? b = some p) :
    (∃ q, 2 ≤ q ∧ q < 32 ∧ b = .ofNat (0xC0 + q) ∧ p.need = 1 ∧ p.bits = q ∧
      p.low.toNat = 0x80 ∧ p.high.toNat = 0xBF) ∨
    (∃ q < 16, b = .ofNat (0xE0 + q) ∧ p.need = 2 ∧ p.bits = q ∧
      p.low.toNat = (if q = 0 then 0xA0 else 0x80) ∧
      p.high.toNat = (if q = 13 then 0x9F else 0xBF)) ∨
    ∃ q < 5, b = .ofNat (0xF0 + q) ∧ p.need = 3 ∧ p.bits = q ∧
      p.low.toNat = (if q = 0 then 0x90 else 0x80) ∧
      p.high.toNat = (if q = 4 then 0x8F else 0xBF) := by
  have hrange : 0xC2 ≤ b.toNat ∧ b.toNat < 0xF5 := by
    unfold lead? at h
    simp only [UInt8.le_iff_toNat_le, ← UInt8.toNat_inj] at h
    grind
  have hback (k : Nat) (hk : k ≤ b.toNat) : b = .ofNat (k + (b.toNat - k)) := by
    rw [Nat.add_sub_cancel' hk, UInt8.ofNat_toNat]
  rcases Nat.lt_or_ge b.toNat 0xE0 with htwo | hmore
  · refine Or.inl ⟨b.toNat - 0xC0, by omega, by omega, hback _ (by omega), ?_⟩
    rw [hback 0xC0 (by omega), lead?_of_two _ (by omega) (by omega)] at h
    obtain rfl := Option.some.inj h
    exact ⟨rfl, rfl, rfl, rfl⟩
  rcases Nat.lt_or_ge b.toNat 0xF0 with hthree | hfour
  · refine Or.inr (Or.inl ⟨b.toNat - 0xE0, by omega, hback _ (by omega), ?_⟩)
    rw [hback 0xE0 (by omega), lead?_of_three _ (by omega)] at h
    obtain rfl := Option.some.inj h
    exact ⟨rfl, rfl, by dsimp only; split <;> rfl, by dsimp only; split <;> rfl⟩
  · refine Or.inr (Or.inr ⟨b.toNat - 0xF0, by omega, hback _ (by omega), ?_⟩)
    rw [hback 0xF0 (by omega), lead?_of_four _ (by omega)] at h
    obtain rfl := Option.some.inj h
    exact ⟨rfl, rfl, by dsimp only; split <;> rfl, by dsimp only; split <;> rfl⟩

-- Bytes that lead to a pending state and no further.
inductive Begun : Bytes → Pending → Prop
  | lead {b : UInt8} {p : Pending} (hlead : lead? b = some p) : Begun [b] p
  | tail {part : Bytes} {p : Pending} {b : UInt8} (hbegun : Begun part p) (hlow : p.low ≤ b)
      (hhigh : b ≤ p.high) (hneed : 1 < p.need) :
      Begun (part ++ [b]) ⟨p.width + 1, p.need - 1, 0x80, 0xBF, 64 * p.bits + b.toNat % 64⟩

variable {part : Bytes} {p : Pending} {b : UInt8}

theorem Begun.foldl_step (h : Begun part p) (pieces : List Piece) :
    part.foldl Scan.step ⟨pieces, none⟩ = ⟨pieces, some p⟩ := by
  induction h with
  | lead hlead => exact step_lead pieces hlead
  | tail _ hlow hhigh hneed ih =>
      rw [List.foldl_append, ih, List.foldl_cons, List.foldl_nil, Scan.step]
      simp only [if_pos (And.intro hlow hhigh), if_neg (Nat.not_le.mpr hneed)]

theorem toNat_ofNat_of_valid {n : Nat} (h : n.isValidChar) : (Char.ofNat n).toNat = n := by
  rw [Char.ofNat, dif_pos h]
  rfl

theorem encodeChar_of_two {q t : Nat} (hlow : 2 ≤ q) (hhigh : q < 32) (ht : t < 64) :
    encodeChar (Char.ofNat (64 * q + t)) = [.ofNat (0xC0 + q), .ofNat (0x80 + t)] := by
  have hdiv : (64 * q + t) / 64 = q := by omega
  have hmod : (64 * q + t) % 64 = t := by omega
  rw [encodeChar, toNat_ofNat_of_valid (Or.inl (by omega))]
  dsimp only
  rw [if_neg (by omega), if_pos (by omega), hdiv, hmod]

theorem encodeChar_of_three {q t u : Nat} (hq : q < 16) (ht : t < 64) (hu : u < 64)
    (hlow : q = 0 → 32 ≤ t) (hvalid : q = 13 → t < 32) :
    encodeChar (Char.ofNat (64 * (64 * q + t) + u)) =
      [.ofNat (0xE0 + q), .ofNat (0x80 + t), .ofNat (0x80 + u)] := by
  have hdiv : (64 * (64 * q + t) + u) / 4096 = q := by omega
  have hmid : (64 * (64 * q + t) + u) / 64 % 64 = t := by omega
  have hmod : (64 * (64 * q + t) + u) % 64 = u := by omega
  rw [encodeChar, toNat_ofNat_of_valid (by simp only [Nat.isValidChar]; omega)]
  dsimp only
  rw [if_neg (by omega), if_neg (by omega), if_pos (by omega), hdiv, hmid, hmod]

theorem encodeChar_of_four {q t u v : Nat} (hq : q < 5) (ht : t < 64) (hu : u < 64) (hv : v < 64)
    (hlow : q = 0 → 16 ≤ t) (hhigh : q = 4 → t < 16) :
    encodeChar (Char.ofNat (64 * (64 * (64 * q + t) + u) + v)) =
      [.ofNat (0xF0 + q), .ofNat (0x80 + t), .ofNat (0x80 + u), .ofNat (0x80 + v)] := by
  have hdiv : (64 * (64 * (64 * q + t) + u) + v) / 262144 = q := by omega
  have hfirst : (64 * (64 * (64 * q + t) + u) + v) / 4096 % 64 = t := by omega
  have hmid : (64 * (64 * (64 * q + t) + u) + v) / 64 % 64 = u := by omega
  have hmod : (64 * (64 * (64 * q + t) + u) + v) % 64 = v := by omega
  rw [encodeChar, toNat_ofNat_of_valid (by simp only [Nat.isValidChar]; omega)]
  dsimp only
  rw [if_neg (by omega), if_neg (by omega), if_neg (by omega), hdiv, hfirst, hmid, hmod]

theorem Begun.bounds (h : Begun part p) :
    1 ≤ p.need ∧ p.need ≤ 3 ∧ 0x80 ≤ p.low.toNat ∧ p.low.toNat ≤ p.high.toNat ∧
    p.high.toNat ≤ 0xBF := by
  induction h with
  | lead hlead => grind [lead?_cases hlead]
  | tail _ _ _ hneed ih =>
      have hlow : (0x80 : UInt8).toNat = 0x80 := rfl
      have hhigh : (0xBF : UInt8).toNat = 0xBF := rfl
      dsimp only
      omega

-- A byte that may come next carries six bits.
theorem Begun.exists_bits (h : Begun part p) (hlow : p.low ≤ b) (hhigh : b ≤ p.high) :
    ∃ t < 64, b = .ofNat (0x80 + t) ∧ b.toNat % 64 = t ∧ p.low.toNat ≤ 0x80 + t ∧
      0x80 + t ≤ p.high.toNat := by
  obtain ⟨_, _, hleast, _, hmost⟩ := h.bounds
  rw [UInt8.le_iff_toNat_le] at hlow hhigh
  refine ⟨b.toNat - 0x80, by omega, ?_, by omega, by omega, by omega⟩
  rw [Nat.add_sub_cancel' (by omega), UInt8.ofNat_toNat]

theorem Begun.of_need_three (h : Begun part p) (hneed : p.need = 3) :
    ∃ q < 5, part = [.ofNat (0xF0 + q)] ∧ p.bits = q ∧
      p.low.toNat = (if q = 0 then 0x90 else 0x80) ∧
      p.high.toNat = (if q = 4 then 0x8F else 0xBF) := by
  cases h with
  | lead hlead => grind [lead?_cases hlead]
  | tail h =>
      have := h.bounds
      dsimp only at hneed
      omega

theorem Begun.of_need_two (h : Begun part p) (hneed : p.need = 2) :
    (∃ q < 16, part = [.ofNat (0xE0 + q)] ∧ p.bits = q ∧
      p.low.toNat = (if q = 0 then 0xA0 else 0x80) ∧
      p.high.toNat = (if q = 13 then 0x9F else 0xBF)) ∨
    ∃ q < 5, ∃ t < 64, part = [.ofNat (0xF0 + q), .ofNat (0x80 + t)] ∧ p.bits = 64 * q + t ∧
      (q = 0 → 16 ≤ t) ∧ (q = 4 → t < 16) := by
  cases h with
  | lead hlead => grind [lead?_cases hlead]
  | tail h hlow hhigh hmore =>
      obtain ⟨t, ht, rfl, hbits, hleast, hmost⟩ := h.exists_bits hlow hhigh
      obtain ⟨q, hq, rfl, rfl, hlow, hhigh⟩ := h.of_need_three (by dsimp only at hneed; omega)
      refine Or.inr ⟨_, hq, t, ht, rfl, by rw [hbits], fun h => ?_, fun h => ?_⟩
      · rw [if_pos h] at hlow
        omega
      · rw [if_pos h] at hhigh
        omega

theorem Begun.of_need_one (h : Begun part p) (hneed : p.need = 1) :
    (∃ q, 2 ≤ q ∧ q < 32 ∧ part = [.ofNat (0xC0 + q)] ∧ p.bits = q) ∨
    (∃ q < 16, ∃ t < 64, part = [.ofNat (0xE0 + q), .ofNat (0x80 + t)] ∧ p.bits = 64 * q + t ∧
      (q = 0 → 32 ≤ t) ∧ (q = 13 → t < 32)) ∨
    ∃ q < 5, ∃ t < 64, ∃ u < 64, part = [.ofNat (0xF0 + q), .ofNat (0x80 + t), .ofNat (0x80 + u)] ∧
      p.bits = 64 * (64 * q + t) + u ∧ (q = 0 → 16 ≤ t) ∧ (q = 4 → t < 16) := by
  cases h with
  | lead hlead => grind [lead?_cases hlead]
  | tail h hlow hhigh hmore =>
      obtain ⟨u, hu, rfl, hbits, hleast, hmost⟩ := h.exists_bits hlow hhigh
      rcases h.of_need_two (by dsimp only at hneed; omega) with ⟨q, hq, rfl, rfl, hlow, hhigh⟩ |
        ⟨q, hq, t, ht, rfl, hfirst, hsecond⟩
      · refine Or.inr (Or.inl ⟨_, hq, u, hu, rfl, by rw [hbits], fun h => ?_, fun h => ?_⟩)
        · rw [if_pos h] at hlow
          omega
        · rw [if_pos h] at hhigh
          omega
      · exact Or.inr (Or.inr ⟨q, hq, t, ht, u, hu, rfl, by rw [hbits, hfirst], hsecond⟩)

-- With its last byte a sequence is a character.
theorem Begun.complete (h : Begun part p) (hlow : p.low ≤ b) (hhigh : b ≤ p.high)
    (hneed : p.need ≤ 1) : part ++ [b] = encodeChar (Char.ofNat (64 * p.bits + b.toNat % 64)) := by
  obtain ⟨v, hv, rfl, hbits, _⟩ := h.exists_bits hlow hhigh
  rw [hbits]
  rcases h.of_need_one (Nat.le_antisymm hneed h.bounds.1) with ⟨q, hq, hq', rfl, hfirst⟩ |
    ⟨q, hq, t, ht, rfl, hfirst, hleast, hmost⟩ | ⟨q, hq, t, ht, u, hu, rfl, hfirst, hleast, hmost⟩
  · rw [hfirst, encodeChar_of_two hq hq' hv]
    rfl
  · rw [hfirst, encodeChar_of_three hq ht hv hleast hmost]
    rfl
  · rw [hfirst, encodeChar_of_four hq ht hu hv hleast hmost]
    rfl

theorem Begins.of_longer {longer : Bytes} (h : Begins longer) (hpart : part <+: longer) :
    Begins part := by
  obtain ⟨c, hc⟩ := h
  exact ⟨c, hpart.trans hc⟩

-- The least bytes that may come next complete it.
theorem Begun.begins (h : Begun part p) : Begins part := by
  generalize hneed : p.need = k
  induction k generalizing part p with
  | zero => exact absurd (hneed ▸ h.bounds.1) (by decide)
  | succ k ih =>
      have hrange : p.low ≤ p.high := UInt8.le_iff_toNat_le.mpr h.bounds.2.2.2.1
      by_cases hlast : p.need ≤ 1
      · exact ⟨_, _, h.complete (UInt8.le_refl _) hrange hlast⟩
      · have hmore := Begun.tail h (UInt8.le_refl _) hrange (Nat.lt_of_not_le hlast)
        have hbegins : Begins (part ++ [p.low]) := ih hmore (by dsimp only; omega)
        exact hbegins.of_longer (List.prefix_append _ _)

theorem Begun.ne_nil (h : Begun part p) : part ≠ [] := by
  cases h <;> simp

end Begun

section Marks

variable {s : Scan} {piece : Piece} {part bytes : Bytes}

-- A piece that is read stays.
theorem mem_begin {pieces : List Piece} (h : piece ∈ pieces) (b : UInt8) :
    piece ∈ (Scan.begin pieces b).pieces := by
  unfold Scan.begin
  split
  · exact List.mem_cons_of_mem _ h
  · split
    · exact h
    · exact List.mem_cons_of_mem _ h

theorem mem_step (h : piece ∈ s.pieces) (b : UInt8) : piece ∈ (s.step b).pieces := by
  unfold Scan.step
  split
  · exact mem_begin h b
  · split
    · dsimp only
      split
      · exact List.mem_cons_of_mem _ h
      · exact h
    · exact mem_begin (List.mem_cons_of_mem _ h) b

theorem mem_foldl_step (h : piece ∈ s.pieces) (bytes : Bytes) :
    piece ∈ (bytes.foldl Scan.step s).pieces := by
  induction bytes generalizing s with
  | nil => exact h
  | cons b rest ih => exact ih (mem_step h b)

-- The bytes that a character begins with leave no other mark than itself.
theorem eq_of_begins {c : Char} (hpart : part <+: encodeChar c) (h : piece ∈ (scan part).pieces) :
    piece = .char c := by
  obtain ⟨more, hmore⟩ := hpart
  have hread := foldl_step_encodeChar [] c
  rw [← hmore, List.foldl_append] at hread
  have hmem := mem_foldl_step h more
  rw [scan, hread] at hmem
  exact List.mem_singleton.mp hmem

theorem not_begins_of_broken {width : Nat} (h : .broken width ∈ (scan part).pieces) :
    ¬Begins part := by
  rintro ⟨c, hc⟩
  cases eq_of_begins hc h

theorem eq_of_encodeChar_begins {c c' : Char} (h : encodeChar c <+: encodeChar c') : c = c' := by
  have hread : .char c ∈ (scan (encodeChar c)).pieces := by
    rw [scan, foldl_step_encodeChar]
    exact List.mem_singleton_self _
  exact Piece.char.inj (eq_of_begins h hread)

variable {p : Pending} {b : UInt8}

theorem Begun.not_begins (h : Begun part p) (hout : ¬(p.low ≤ b ∧ b ≤ p.high)) :
    ¬Begins (part ++ [b]) := by
  have hread : scan (part ++ [b]) = .begin [.broken p.width] b := by
    rw [scan, List.foldl_append, h.foldl_step, List.foldl_cons, List.foldl_nil, Scan.step]
    exact if_neg hout
  exact not_begins_of_broken (hread ▸ mem_begin (List.mem_singleton_self _) b)

theorem Begun.no_char (h : Begun part p) (c : Char) : ¬encodeChar c <+: part := by
  rintro ⟨more, rfl⟩
  have hread := h.foldl_step []
  rw [List.foldl_append, foldl_step_encodeChar] at hread
  have hmem := mem_foldl_step (s := ⟨[.char c], none⟩) (List.mem_singleton_self _) more
  rw [hread] at hmem
  cases hmem

-- Where no byte that fits comes next, nothing comes of what has begun.
theorem Begun.broken {rest : Bytes} (h : Begun part p)
    (hout : ∀ b ∈ rest.head?, ¬(p.low ≤ b ∧ b ≤ p.high)) : Broken part rest where
  nonempty := h.ne_nil
  begins := Or.inr h.begins
  no_char c hc := by
    cases rest with
    | nil => exact h.no_char c (List.append_nil part ▸ hc)
    | cons b rest =>
        have hnone := h.not_begins (hout b rfl)
        have hlonger : part ++ [b] <+: part ++ b :: rest := ⟨rest, by simp⟩
        rcases List.prefix_or_prefix_of_prefix hc hlonger with hshort | hlong
        · rcases List.prefix_concat_iff.mp hshort with heq | hless
          · exact hnone ⟨c, heq ▸ List.prefix_refl _⟩
          · exact h.no_char c hless
        · exact hnone ⟨c, hlong⟩
  longest b hb := h.not_begins (hout b hb)

-- A byte that begins no character stands alone.
theorem broken_of_lead?_eq_none (hhigh : 0x80 ≤ b) (h : lead? b = none) (rest : Bytes) :
    Broken [b] rest := by
  have hnone : ¬Begins [b] := by
    have hread : scan [b] = ⟨[.broken 1], none⟩ := by
      rw [scan, List.foldl_cons, List.foldl_nil, Scan.step, Scan.begin,
        if_neg (UInt8.not_lt.mpr hhigh), h]
    have hmem : .broken 1 ∈ (scan [b]).pieces := by
      rw [hread]
      exact List.mem_singleton_self _
    exact not_begins_of_broken hmem
  refine ⟨List.cons_ne_nil _ _, Or.inl rfl, fun c hc => hnone ?_, fun _ _ hmore => hnone ?_⟩
  · obtain ⟨first, more, hchar⟩ :=
      List.exists_cons_of_ne_nil (List.ne_nil_of_length_pos (length_encodeChar_pos c))
    rw [hchar] at hc
    obtain ⟨rfl, _⟩ := List.cons_prefix_cons.mp hc
    exact ⟨c, more, hchar.symm⟩
  · exact hmore.of_longer (List.prefix_append _ _)

end Marks

section Step

variable {part : Bytes} {p : Pending}

-- Between two characters a byte is a character, begins a longer one, or begins none.
theorem step_idle_cases (b : UInt8) :
    (∃ c, encodeChar c = [b] ∧ ∀ pieces, Scan.step ⟨pieces, none⟩ b = ⟨.char c :: pieces, none⟩) ∨
    (∃ p, lead? b = some p ∧ ∀ pieces, Scan.step ⟨pieces, none⟩ b = ⟨pieces, some p⟩) ∨
    (0x80 ≤ b ∧ lead? b = none ∧ ∀ pieces, Scan.step ⟨pieces, none⟩ b = ⟨.broken 1 :: pieces, none⟩) := by
  have hback : UInt8.ofNat b.toNat = b := UInt8.ofNat_toNat
  rcases Nat.lt_or_ge b.toNat 0x80 with hascii | hhigh
  · refine Or.inl ⟨Char.ofNat b.toNat, ?_, fun pieces => ?_⟩
    · rw [encodeChar, toNat_ofNat_of_valid (Or.inl (by omega)), hback]
      exact if_pos hascii
    · have hstep := step_ascii pieces hascii
      rwa [hback] at hstep
  · have hhigh : 0x80 ≤ b := UInt8.le_iff_toNat_le.mpr hhigh
    cases hlead : lead? b with
    | some p => exact Or.inr (Or.inl ⟨p, rfl, fun pieces => step_lead pieces hlead⟩)
    | none =>
        refine Or.inr (Or.inr ⟨hhigh, rfl, fun pieces => ?_⟩)
        rw [Scan.step, Scan.begin, if_neg (UInt8.not_lt.mpr hhigh), hlead]

-- Behind a part of a character a byte completes it, goes on with it, or does not fit and is
-- read once more as the first of its sequence.
theorem Begun.step_cases (h : Begun part p) (b : UInt8) :
    (∃ c, encodeChar c = part ++ [b] ∧ ∀ pieces, Scan.step ⟨pieces, some p⟩ b = ⟨.char c :: pieces, none⟩) ∨
    (∃ p', Begun (part ++ [b]) p' ∧ ∀ pieces, Scan.step ⟨pieces, some p⟩ b = ⟨pieces, some p'⟩) ∨
    (¬(p.low ≤ b ∧ b ≤ p.high) ∧
      ∀ pieces, Scan.step ⟨pieces, some p⟩ b = Scan.step ⟨.broken p.width :: pieces, none⟩ b) := by
  by_cases hrange : p.low ≤ b ∧ b ≤ p.high
  · by_cases hneed : p.need ≤ 1
    · refine Or.inl ⟨_, (h.complete hrange.1 hrange.2 hneed).symm, fun pieces => ?_⟩
      simp only [Scan.step, if_pos hrange, if_pos hneed]
    · refine Or.inr (Or.inl ⟨_, .tail h hrange.1 hrange.2 (Nat.lt_of_not_le hneed), fun pieces => ?_⟩)
      simp only [Scan.step, if_pos hrange, if_neg hneed]
  · exact Or.inr (Or.inr ⟨hrange, fun pieces => if_neg hrange⟩)

end Step

def Scan.shown (s : Scan) : List Char :=
  (if s.pending.isSome then '\uFFFD' :: s.pieces.map Piece.shown else s.pieces.map Piece.shown).reverse

theorem toList_lossy (bytes : Bytes) : (lossy bytes).toList = (scan bytes).shown := by
  rw [lossy, String.toList_ofList, Scan.shown]

-- What is read on in a state that has begun `part`, apart from what it shows already.
def ShowsFrom (s : Scan) (part bytes : Bytes) : Prop :=
  ∃ text, Shows (part ++ bytes) text ∧
    (bytes.foldl Scan.step s).shown = (s.pieces.map Piece.shown).reverse ++ text

theorem ShowsFrom.piece {s s' : Scan} {piece : Piece} {part bytes rest : Bytes}
    (h : ShowsFrom s' [] rest) (hpieces : s'.pieces = piece :: s.pieces)
    (hread : bytes.foldl Scan.step s = rest.foldl Scan.step s')
    (hshows : ∀ text, Shows rest text → Shows (part ++ bytes) (piece.shown :: text)) :
    ShowsFrom s part bytes := by
  obtain ⟨text, hrest, hshown⟩ := h
  refine ⟨piece.shown :: text, hshows text hrest, ?_⟩
  rw [hread, hshown, hpieces]
  simp

section From

variable {pieces : List Piece} {part rest : Bytes} {p : Pending} {b : UInt8}

theorem ShowsFrom.idle (b : UInt8) (hidle : ∀ pieces, ShowsFrom ⟨pieces, none⟩ [] rest)
    (hpending : ∀ part p pieces, Begun part p → ShowsFrom ⟨pieces, some p⟩ part rest)
    (pieces : List Piece) : ShowsFrom ⟨pieces, none⟩ [] (b :: rest) := by
  rcases step_idle_cases b with ⟨c, hchar, hstep⟩ | ⟨p, hlead, hstep⟩ | ⟨hhigh, hlead, hstep⟩
  · refine (hidle (.char c :: pieces)).piece rfl (by rw [List.foldl_cons, hstep]) fun text h => ?_
    have hshows := Shows.char c h
    rwa [hchar] at hshows
  · obtain ⟨text, hshows, hshown⟩ := hpending [b] p pieces (.lead hlead)
    exact ⟨text, hshows, by rw [List.foldl_cons, hstep, hshown]⟩
  · have halone : Broken [b] rest := broken_of_lead?_eq_none hhigh hlead rest
    refine (hidle (.broken 1 :: pieces)).piece rfl (by rw [List.foldl_cons, hstep]) fun text h => ?_
    have hshows : Shows ([b] ++ rest) ('\uFFFD' :: text) := .broken halone h
    exact hshows

theorem ShowsFrom.pending (h : Begun part p) (hidle : ∀ pieces, ShowsFrom ⟨pieces, none⟩ [] rest)
    (hidle' : ∀ pieces, ShowsFrom ⟨pieces, none⟩ [] (b :: rest))
    (hpending : ∀ part p pieces, Begun part p → ShowsFrom ⟨pieces, some p⟩ part rest)
    (pieces : List Piece) : ShowsFrom ⟨pieces, some p⟩ part (b :: rest) := by
  rcases h.step_cases b with ⟨c, hchar, hstep⟩ | ⟨p', hbegun, hstep⟩ | ⟨hrange, hstep⟩
  · refine (hidle (.char c :: pieces)).piece rfl (by rw [List.foldl_cons, hstep])
      fun text hrest => ?_
    have hshows := Shows.char c hrest
    rwa [hchar, List.append_assoc] at hshows
  · obtain ⟨text, hshows, hshown⟩ := hpending _ _ pieces hbegun
    exact ⟨text, by simpa using hshows, by rw [List.foldl_cons, hstep, hshown]⟩
  · refine (hidle' (.broken p.width :: pieces)).piece rfl (by rw [List.foldl_cons, hstep]; rfl)
      fun text hrest => ?_
    exact .broken (h.broken fun _ hb => Option.some.inj hb ▸ hrange) hrest

end From

-- Between two characters and behind a part of one. A byte that does not fit is read once
-- more as the first of its sequence, so the first half for it comes before the second.
theorem showsFrom (bytes : Bytes) : (∀ pieces, ShowsFrom ⟨pieces, none⟩ [] bytes) ∧
    ∀ part p pieces, Begun part p → ShowsFrom ⟨pieces, some p⟩ part bytes := by
  induction bytes with
  | nil =>
      refine ⟨fun pieces => ⟨[], .nil, by simp [Scan.shown]⟩, fun part p pieces h => ?_⟩
      exact ⟨_, .broken (h.broken (by simp)) .nil, by simp [Scan.shown]⟩
  | cons b rest ih =>
      obtain ⟨hidle, hpending⟩ := ih
      have hidle' := ShowsFrom.idle b hidle hpending
      exact ⟨hidle', fun _ _ pieces h => .pending h hidle hidle' hpending pieces⟩

theorem shows_lossy (bytes : Bytes) : Shows bytes (lossy bytes).toList := by
  obtain ⟨text, hshows, hshown⟩ := (showsFrom bytes).1 []
  rw [toList_lossy, scan, hshown]
  exact hshows

theorem Broken.part_eq {part part' rest rest' : Bytes} (h : Broken part rest)
    (h' : Broken part' rest')
    (hbytes : part ++ rest = part' ++ rest') (hlength : part.length ≤ part'.length) :
    part = part' := by
  obtain ⟨more, rfl⟩ :=
    List.prefix_of_prefix_length_le ⟨rest, hbytes⟩ (List.prefix_append part' rest') hlength
  cases more with
  | nil => rw [List.append_nil]
  | cons b more =>
      have hhead : b ∈ rest.head? := by
        rw [List.append_assoc] at hbytes
        rw [List.append_cancel_left hbytes]
        rfl
      have hlong : Begins (part ++ b :: more) := by
        refine h'.begins.resolve_left fun hone => ?_
        have := List.length_pos_iff.mpr h.nonempty
        simp at hone
        omega
      exact absurd (hlong.of_longer ⟨more, by simp⟩) (h.longest b hhead)

section Inversion

variable {c : Char} {part rest bytes : Bytes} {text : List Char}

theorem encodeChar_append_ne_nil (c : Char) (rest : Bytes) : encodeChar c ++ rest ≠ [] :=
  List.append_ne_nil_of_left_ne_nil (List.ne_nil_of_length_pos (length_encodeChar_pos c)) rest

-- The bytes say which part comes first, and so what is shown first.
theorem Shows.of_nil (h : Shows bytes text) (hbytes : bytes = []) : text = [] := by
  cases h with
  | nil => rfl
  | char c _ => exact absurd hbytes (encodeChar_append_ne_nil c _)
  | broken hbroken _ => exact absurd (List.append_eq_nil_iff.mp hbytes).1 hbroken.nonempty

theorem Shows.of_char (h : Shows bytes text) (hbytes : bytes = encodeChar c ++ rest) :
    ∃ text', text = c :: text' ∧ Shows rest text' := by
  cases h with
  | nil => exact absurd hbytes.symm (encodeChar_append_ne_nil c rest)
  | @char c' rest' text' hrest =>
      have hsame : c' = c := by
        rcases List.prefix_or_prefix_of_prefix ⟨rest', hbytes⟩
          (List.prefix_append _ _) with hle | hge
        · exact eq_of_encodeChar_begins hle
        · exact (eq_of_encodeChar_begins hge).symm
      subst hsame
      exact ⟨text', rfl, List.append_cancel_left hbytes ▸ hrest⟩
  | broken hbroken _ => exact absurd ⟨rest, hbytes.symm⟩ (hbroken.no_char c)

theorem Shows.of_broken (h : Shows bytes text) (hbytes : bytes = part ++ rest)
    (hbroken : Broken part rest) : ∃ text', text = '\uFFFD' :: text' ∧ Shows rest text' := by
  cases h with
  | nil => exact absurd (List.append_eq_nil_iff.mp hbytes.symm).1 hbroken.nonempty
  | char c' _ => exact absurd ⟨_, hbytes⟩ (hbroken.no_char c')
  | @broken part' rest' text' hbroken' hrest =>
      have hsame : part' = part := by
        rcases Nat.le_total part'.length part.length with hle | hge
        · exact hbroken'.part_eq hbroken hbytes hle
        · exact (hbroken.part_eq hbroken' hbytes.symm hge).symm
      subst hsame
      exact ⟨text', rfl, List.append_cancel_left hbytes ▸ hrest⟩

end Inversion

-- Nothing else could be shown for the same bytes.
theorem Shows.unique {bytes : Bytes} {a b : List Char} (h : Shows bytes a) (h' : Shows bytes b) :
    a = b := by
  induction h generalizing b with
  | nil => exact (h'.of_nil rfl).symm
  | char c _ ih =>
      obtain ⟨text, rfl, hrest⟩ := h'.of_char rfl
      rw [ih hrest]
  | broken hbroken _ ih =>
      obtain ⟨text, rfl, hrest⟩ := h'.of_broken rfl hbroken
      rw [ih hrest]

theorem shows_iff {bytes : Bytes} {text : List Char} :
    Shows bytes text ↔ text = (lossy bytes).toList :=
  ⟨fun h => h.unique (shows_lossy bytes), fun h => h ▸ shows_lossy bytes⟩

-- Two runs of bytes look the same if and only if they fall into parts that look the same.
theorem lossy_eq_iff {a b : Bytes} : lossy a = lossy b ↔ ∃ text, Shows a text ∧ Shows b text := by
  simp only [shows_iff, ← String.toList_inj]
  constructor
  · intro h
    exact ⟨_, rfl, h⟩
  · rintro ⟨text, ha, hb⟩
    exact ha.symm.trans hb

theorem lossy_encode (text : String) : lossy (encode text) = text := by
  simp [lossy, scan_encode, Function.comp_def, Piece.shown]

end Rumor.Utf8
