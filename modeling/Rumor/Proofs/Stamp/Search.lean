import Mathlib.Logic.Function.Iterate
import Rumor.Engine
import Rumor.Proofs.Stamp

namespace Rumor.Stamp

-- One nonce is tried a turn, counted up in 64 bits. The message is touched when one passes.
inductive Search
  | trying (m : Message) (nonce : UInt64)
  | ended (result : Except PeerError Unit) (m : Message)

-- Behind the greatest nonce there is none.
def next? (nonce : UInt64) : Option UInt64 :=
  if nonce.toNat + 1 < UInt64.size then some (nonce + 1) else none

namespace Search

def goOn (d : Difficulty) (m : Message) : Option UInt64 → Search
  | some nonce => .trying m nonce
  | none => .ended (.error (.noNonce d)) m

def turn (H : Digest) (d : Difficulty) (prepared : H.State) : Search → Search
  | .trying m nonce =>
      if d.isMetBy (H.finish (H.absorb prepared (nonceBytes nonce.toNat))) then
        .ended (.ok ()) { m with nonce }
      else goOn d m (next? nonce)
  | .ended result m => .ended result m

def after (H : Digest) (d : Difficulty) (m : Message) (turns : Nat) : Search :=
  (turn H d (H.absorb H.start (canonicalBytes m)))^[turns] (.trying m 0)

end Search

variable {H : Digest} {d : Difficulty} {m : Message}

theorem next?_ofNat {k : Nat} (h : k + 1 < UInt64.size) :
    next? (.ofNat k) = some (.ofNat (k + 1)) := by
  have hvalue : (UInt64.ofNat k).toNat = k := UInt64.toNat_ofNat_of_lt' (Nat.lt_of_succ_lt h)
  rw [next?, hvalue, if_pos h]
  exact congrArg some (UInt64.ofNat_add k 1).symm

theorem leastFrom_eq_none {passes : Nat → Bool} {n : Nat} (h : leastFrom passes n = none) :
    ∀ j, n ≤ j → j < UInt64.size → passes j = false := by
  induction n using leastFrom.induct passes with
  | case1 n hn hpass =>
      rw [leastFrom, if_pos hn, if_pos hpass] at h
      cases h
  | case2 n hn hpass ih =>
      rw [leastFrom, if_pos hn, if_neg hpass] at h
      intro j hle hlt
      rcases Nat.eq_or_lt_of_le hle with rfl | hgt
      · exact Bool.eq_false_iff.mpr hpass
      · exact ih h j hgt hlt
  | case3 n hn => exact fun j hle hlt => absurd (Nat.lt_of_le_of_lt hle hlt) hn

-- To go on from the state behind the common text is to hash the whole.
theorem isValid_with_nonce (H : Digest) (d : Difficulty) (m : Message) (nonce : UInt64) :
    isValid H d { m with nonce } =
      d.isMetBy (H.finish
        (H.absorb (H.absorb H.start (canonicalBytes m)) (nonceBytes nonce.toNat))) := by
  rw [isValid, hashed, H.hash_append]
  rfl

theorem after_succ {k : Nat} {nonce : UInt64} (h : Search.after H d m k = .trying m nonce) :
    Search.after H d m (k + 1) =
      if isValid H d { m with nonce } then .ended (.ok ()) { m with nonce }
      else .goOn d m (next? nonce) := by
  rw [Search.after, Function.iterate_succ_apply', ← Search.after, h, isValid_with_nonce]
  rfl

-- As many turns as nonces have failed, and the counter has not come round.
theorem after_of_failed {k : Nat} (hk : k < UInt64.size)
    (hfailed : ∀ j < k, isValid H d { m with nonce := .ofNat j } = false) :
    Search.after H d m k = .trying m (.ofNat k) := by
  induction k with
  | zero => rfl
  | succ k ih =>
      have hbefore := ih (Nat.lt_of_succ_lt hk) fun j hj => hfailed j (Nat.lt_succ_of_lt hj)
      rw [after_succ hbefore, hfailed k (Nat.lt_succ_self k), next?_ofNat hk]
      rfl

theorem after_of_passed {k : Nat} (hk : k < UInt64.size)
    (hfailed : ∀ j < k, isValid H d { m with nonce := .ofNat j } = false)
    (hpass : isValid H d { m with nonce := .ofNat k } = true) :
    Search.after H d m (k + 1) = .ended (.ok ()) { m with nonce := .ofNat k } := by
  rw [after_succ (after_of_failed hk hfailed), if_pos hpass]

theorem after_of_all_failed
    (hfailed : ∀ j < UInt64.size, isValid H d { m with nonce := .ofNat j } = false) :
    Search.after H d m UInt64.size = .ended (.error (.noNonce d)) m := by
  let last := UInt64.size - 1
  have hturns : UInt64.size = last + 1 := rfl
  have hlast : last < UInt64.size := by decide
  have hnext : next? (.ofNat last) = none := by decide
  have hbefore : Search.after H d m last = .trying m (.ofNat last) :=
    after_of_failed hlast fun j hj => hfailed j (Nat.lt_trans hj hlast)
  rw [hturns, after_succ hbefore, hfailed last hlast, hnext]
  rfl

-- Either the least nonce that passes is found, or all have been tried.
theorem stamp?_cases (H : Digest) (d : Difficulty) (m : Message) :
    (∃ k < UInt64.size, (∀ j < k, isValid H d { m with nonce := .ofNat j } = false) ∧
      isValid H d { m with nonce := .ofNat k } = true ∧
      stamp? H d m = some { m with nonce := .ofNat k }) ∨
    ((∀ j < UInt64.size, isValid H d { m with nonce := .ofNat j } = false) ∧ stamp? H d m = none) := by
  let passes (nonce : Nat) : Bool :=
    d.isMetBy (H.finish (H.absorb (H.absorb H.start (canonicalBytes m)) (nonceBytes nonce)))
  have hstamp : stamp? H d m = (leastFrom passes 0).map fun nonce =>
      { m with nonce := .ofNat nonce } := rfl
  have hpasses : ∀ j < UInt64.size, isValid H d { m with nonce := .ofNat j } = passes j := by
    intro j hj
    rw [isValid_with_nonce, UInt64.toNat_ofNat_of_lt' hj]
  cases hleast : leastFrom passes 0 with
  | some k =>
      obtain ⟨hpass, hk, hbefore⟩ := leastFrom_eq_some hleast
      refine Or.inl ⟨k, hk, fun j hj => ?_, (hpasses k hk).trans hpass, by rw [hstamp, hleast]; rfl⟩
      rw [hpasses j (Nat.lt_trans hj hk), hbefore j (Nat.zero_le j) hj]
  | none =>
      refine Or.inr ⟨fun j hj => ?_, by rw [hstamp, hleast]; rfl⟩
      rw [hpasses j hj, leastFrom_eq_none hleast j (Nat.zero_le j) hj]

-- The nonce that a message carries is not looked at.
theorem stamp?_with_nonce (H : Digest) (d : Difficulty) (m : Message) (nonce : UInt64) :
    stamp? H d { m with nonce } = stamp? H d m :=
  rfl

-- The search comes to an end before its counter does. It ends well if and only if some
-- nonce passes, and then with the least.
theorem search_least (H : Digest) (d : Difficulty) (m : Message) :
    ∃ turns ≤ UInt64.size, ∃ result final,
      Search.after H d m turns = .ended result final ∧
      (∀ k < turns, ∃ nonce, nonce.toNat = k ∧ Search.after H d m k = .trying m nonce) ∧
      (result = .ok () ↔ ∃ nonce, isValid H d { m with nonce } = true) ∧
      (result = .ok () → stamp? H d m = some final ∧
        (∃ nonce, final = { m with nonce } ∧
          ∀ less < nonce, isValid H d { m with nonce := less } = false) ∧
        ∀ easy : Difficulty, easy.zeros ≤ d.zeros → isValid H easy final = true) ∧
      (result ≠ .ok () → stamp? H d m = none ∧ result = .error (.noNonce d) ∧ final = m) ∧
      (∀ e : Engine, e.settings.difficulty = d → e.stamp H m = result.map fun _ => final) ∧
      ∀ nonce, stamp? H d { m with nonce } = stamp? H d m := by
  have hcounted {turns k : Nat} (hk : k < turns) (hturns : turns ≤ UInt64.size)
      (hfailed : ∀ j < k, isValid H d { m with nonce := .ofNat j } = false) :
      ∃ nonce : UInt64, nonce.toNat = k ∧ Search.after H d m k = .trying m nonce := by
    have hsize := Nat.lt_of_lt_of_le hk hturns
    exact ⟨.ofNat k, UInt64.toNat_ofNat_of_lt' hsize, after_of_failed hsize hfailed⟩
  have hother := stamp?_with_nonce H d m
  rcases stamp?_cases H d m with ⟨k, hk, hfailed, hpass, hstamp⟩ | ⟨hfailed, hstamp⟩
  · have hleast (less : UInt64) (hless : less < .ofNat k) :
        isValid H d { m with nonce := less } = false := by
      rw [UInt64.lt_iff_toNat_lt, UInt64.toNat_ofNat_of_lt' hk] at hless
      have hfail := hfailed less.toNat hless
      rwa [UInt64.ofNat_toNat] at hfail
    refine ⟨k + 1, hk, .ok (), { m with nonce := .ofNat k }, after_of_passed hk hfailed hpass,
      fun j hj => ?_, ⟨fun _ => ⟨_, hpass⟩, fun _ => rfl⟩,
      fun _ => ⟨hstamp, ⟨.ofNat k, rfl, hleast⟩, fun easy hle => isValid_mono hle hpass⟩,
      fun h => absurd rfl h, fun e he => ?_, hother⟩
    · exact hcounted hj hk fun i hi => hfailed i (Nat.lt_of_lt_of_le hi (Nat.le_of_lt_succ hj))
    · rw [Engine.stamp, he, hstamp]
      rfl
  · have hnone : ¬∃ nonce, isValid H d { m with nonce } = true := by
      rintro ⟨nonce, hpass⟩
      have hfail := hfailed nonce.toNat nonce.toNat_lt
      rw [UInt64.ofNat_toNat, hpass] at hfail
      cases hfail
    have hresult : (Except.error (.noNonce d) : Except PeerError Unit) ≠ .ok () := by simp
    refine ⟨UInt64.size, Nat.le_refl _, .error (.noNonce d), m, after_of_all_failed hfailed,
      fun j hj => ?_, ⟨fun h => absurd h hresult, fun h => absurd h hnone⟩,
      fun h => absurd h hresult, fun _ => ⟨hstamp, rfl, rfl⟩, fun e he => ?_, hother⟩
    · exact hcounted hj (Nat.le_refl _) fun i hi => hfailed i (Nat.lt_trans hi hj)
    · rw [Engine.stamp, he, hstamp]
      rfl

end Rumor.Stamp
