import Rumor.Message
import Std.Data.ExtHashSet

namespace Rumor

-- Ids are the same if they are equal, whatever other comparison of them is at hand.
instance equivBEqMessageId : EquivBEq MessageId :=
  instEquivBEqOfLawfulBEq

-- A set holds the ids of a queue, and each of them waits in one place.
structure Cache.InStep (ids : List MessageId) (known : Std.ExtHashSet MessageId) : Prop where
  known_iff : ∀ id, id ∈ known ↔ id ∈ ids
  nodup : ids.Nodup

-- Ids of messages that were handled, oldest first, and the same in a set in which they
-- are looked up. Once an id is forgotten its message may be handled again, which costs a
-- relay and never memory.
structure Cache where
  capacity : Nat
  ids : List MessageId
  known : Std.ExtHashSet MessageId
  inStep : Cache.InStep ids known
deriving DecidableEq

namespace Cache

variable {ids rest : List MessageId} {known : Std.ExtHashSet MessageId} {id oldest : MessageId}

theorem InStep.nil : InStep [] ∅ where
  known_iff := by simp
  nodup := List.nodup_nil

theorem InStep.push (h : InStep ids known) (hnew : id ∉ known) :
    InStep (ids ++ [id]) (known.insert id) where
  known_iff other := by
    rw [Std.ExtHashSet.mem_insert, h.known_iff, List.mem_append, List.mem_singleton, beq_iff_eq,
      or_comm, eq_comm (a := id)]
  nodup := by
    rw [h.known_iff] at hnew
    refine List.nodup_append.mpr ⟨h.nodup, by simp, fun a ha b hb => ?_⟩
    rintro rfl
    exact hnew (List.mem_singleton.mp hb ▸ ha)

theorem InStep.pop (h : InStep (oldest :: rest) known) : InStep rest (known.erase oldest) := by
  obtain ⟨hfirst, hrest⟩ := List.nodup_cons.mp h.nodup
  refine ⟨fun other => ?_, hrest⟩
  rw [Std.ExtHashSet.mem_erase, h.known_iff, List.mem_cons, beq_eq_false_iff_ne]
  constructor
  · rintro ⟨hne, hmem⟩
    exact hmem.resolve_left hne.symm
  · intro hmem
    exact ⟨fun heq => hfirst (heq ▸ hmem), Or.inr hmem⟩

-- Forgets the oldest id, and again, until no more than `room` are left.
def evict (room : Nat) :
    List MessageId → Std.ExtHashSet MessageId → List MessageId × Std.ExtHashSet MessageId
  | [], known => ([], known)
  | oldest :: rest, known =>
      if room < rest.length + 1 then evict room rest (known.erase oldest)
      else (oldest :: rest, known)

theorem InStep.evict (h : InStep ids known) (room : Nat) :
    InStep (evict room ids known).1 (evict room ids known).2 := by
  induction ids generalizing known with
  | nil => exact h
  | cons oldest rest ih =>
      unfold Cache.evict
      split
      · exact ih h.pop
      · exact h

-- There is room for one id at least.
def empty (capacity : Nat) : Cache :=
  ⟨max capacity 1, [], ∅, .nil⟩

def contains (c : Cache) (id : MessageId) : Bool :=
  c.known.contains id

def size (c : Cache) : Nat :=
  c.ids.length

-- Whether `id` was new. An id that is known keeps its place.
def insert (c : Cache) (id : MessageId) : Bool × Cache :=
  if h : id ∈ c.known then (false, c)
  else
    let left := evict c.capacity (c.ids ++ [id]) (c.known.insert id)
    (true, ⟨c.capacity, left.1, left.2, (c.inStep.push h).evict c.capacity⟩)

end Cache

end Rumor
