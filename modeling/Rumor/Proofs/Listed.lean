import Mathlib.Data.List.DropRight
import Std.Data.ExtHashSet

-- Queues that are cut to their last entries, and sets of what is in a queue.
namespace Rumor

section Last

variable {α : Type}

theorem length_rtake (n : Nat) (list : List α) : (list.rtake n).length = min n list.length := by
  simp only [List.rtake, List.length_drop]
  omega

theorem rtake_append (n : Nat) (early late : List α) :
    (early ++ late).rtake n = early.rtake (n - late.length) ++ late.rtake n := by
  simp only [List.rtake_eq_reverse_take_reverse, List.reverse_append, List.take_append,
    List.length_reverse]

theorem rtake_concat_rtake (n : Nat) (list : List α) (a : α) :
    (list.rtake n ++ [a]).rtake n = (list ++ [a]).rtake n := by
  cases n with
  | zero => simp
  | succ n =>
      have hinner : (list.rtake (n + 1)).rtake n = list.rtake n := by
        simp [List.rtake_eq_reverse_take_reverse, List.take_take]
      rw [List.rtake_concat_succ, List.rtake_concat_succ, hinner]

-- The youngest is not among those who go.
theorem mem_rtake_concat {n : Nat} (h : 1 ≤ n) (list : List α) (a : α) :
    a ∈ (list ++ [a]).rtake n := by
  obtain ⟨n, rfl⟩ := Nat.exists_eq_add_of_le' h
  rw [List.rtake_concat_succ]
  exact List.mem_append_right _ (List.mem_singleton_self a)

end Last

section Set

variable {α : Type} [BEq α] [Hashable α] [LawfulBEq α] [LawfulHashable α] {list : List α}
  {set : Std.ExtHashSet α}

theorem mem_ofList_iff {a : α} : a ∈ Std.ExtHashSet.ofList list ↔ a ∈ list := by
  rw [Std.ExtHashSet.mem_ofList, List.contains_iff_mem]

-- As many are in the set as in the queue, if nothing stands there twice.
theorem size_of_mem_iff (hset : ∀ a, a ∈ set ↔ a ∈ list) (hnodup : list.Nodup) :
    set.size = list.length := by
  have hsame : set = Std.ExtHashSet.ofList list := by
    apply Std.ExtHashSet.ext_mem
    intro a
    rw [hset, mem_ofList_iff]
  have hdistinct : list.Pairwise fun a b => (a == b) = false :=
    hnodup.imp fun hne => beq_false_of_ne hne
  rw [hsame, Std.ExtHashSet.size_ofList hdistinct]

end Set

end Rumor
