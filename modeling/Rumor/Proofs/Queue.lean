import Rumor.Queue

namespace Rumor.Queue

variable {α : Type} {q : Queue α}

def hasRoom (q : Queue α) : Bool :=
  q.isOpen && q.items.length < q.capacity

theorem offer_of_hasRoom (h : q.hasRoom = true) (a : α) :
    q.offer a = (.taken, { q with items := q.items ++ [a] }) := by
  simp only [hasRoom, Bool.and_eq_true, decide_eq_true_eq] at h
  rw [offer, h.1, if_neg (by decide), if_neg (Nat.not_le.mpr h.2)]

theorem offer_of_not_hasRoom (h : q.hasRoom = false) (a : α) :
    (q.offer a).1 ≠ .taken ∧ (q.offer a).2 = q := by
  unfold offer hasRoom at *
  grind

-- An offer is taken at the end of the queue or not at all.
theorem offer_snd (q : Queue α) (a : α) :
    (q.offer a).2 = if q.hasRoom then { q with items := q.items ++ [a] } else q := by
  cases h : q.hasRoom
  · exact (offer_of_not_hasRoom h a).2
  · rw [offer_of_hasRoom h]
    rfl

theorem items_of_take? {a : α} {q' : Queue α} (h : q.take? = some (a, q')) :
    q' = { q with items := q'.items } ∧ q.items = a :: q'.items := by
  unfold take? at h
  split at h
  · cases h
  · rename_i hitems
    cases h
    exact ⟨rfl, hitems⟩

section Room

-- How many more it takes.
def room (q : Queue α) : Nat :=
  if q.isOpen then q.capacity - q.items.length else 0

-- What it is after `n` offers of the same.
def filled (q : Queue α) (n : Nat) (a : α) : Queue α :=
  { q with items := q.items ++ List.replicate (min n q.room) a }

theorem hasRoom_iff : q.hasRoom = true ↔ 0 < q.room := by
  cases h : q.isOpen with
  | false => simp [hasRoom, room, h]
  | true =>
      simp only [hasRoom, room, h, Bool.true_and, decide_eq_true_eq, if_true]
      omega

theorem filled_zero (q : Queue α) (a : α) : q.filled 0 a = q := by
  simp [filled]

theorem filled_offer (q : Queue α) (n : Nat) (a : α) :
    (q.offer a).2.filled n a = q.filled (n + 1) a := by
  rw [offer_snd]
  split
  · rename_i hroom
    have hpos := hasRoom_iff.mp hroom
    have hless : room { q with items := q.items ++ [a] } = q.room - 1 := by
      simp only [room, List.length_append, List.length_singleton]
      split <;> omega
    have hcount : min (n + 1) q.room = min n (q.room - 1) + 1 := by omega
    rw [filled, filled, hless, hcount, List.append_assoc]
    rfl
  · rename_i hfull
    have hnone : q.room = 0 := Nat.eq_zero_of_not_pos fun hpos => hfull (hasRoom_iff.mpr hpos)
    simp [filled, hnone]

theorem length_filled_le (h : q.items.length ≤ q.capacity) (n : Nat) (a : α) :
    (q.filled n a).items.length ≤ q.capacity := by
  have hroom : q.room ≤ q.capacity - q.items.length := by
    unfold room
    split <;> omega
  simp only [filled, List.length_append, List.length_replicate]
  omega

end Room

end Rumor.Queue
