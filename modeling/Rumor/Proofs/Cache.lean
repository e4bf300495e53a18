import Mathlib.Data.Finset.Card
import Mathlib.Data.Finset.Dedup
import Rumor.Cache
import Rumor.Proofs.Listed

namespace Rumor

section Spaced

variable {α : Type}

-- No entry is among the `n` entries before it.
def Spaced (n : Nat) (list : List α) : Prop :=
  ∀ before a after, list = before ++ a :: after → a ∉ before.rtake n

theorem Spaced.nil (n : Nat) : Spaced n ([] : List α) := by
  intro before a after h
  simp at h

theorem Spaced.concat {n : Nat} {list : List α} {a : α} (h : Spaced n list)
    (hnew : a ∉ list.rtake n) : Spaced n (list ++ [a]) := by
  intro before b after he
  rcases List.eq_nil_or_concat after with rfl | ⟨rest, last, rfl⟩
  · obtain ⟨rfl, hab⟩ := List.append_inj' he rfl
    rw [List.cons.injEq] at hab
    exact hab.1 ▸ hnew
  · have he' : list ++ [a] = (before ++ b :: rest) ++ [last] := by simpa using he
    exact h before b rest (List.append_inj' he' rfl).1

theorem Spaced.of_append {n : Nat} {list rest : List α} (h : Spaced n (list ++ rest)) :
    Spaced n list := by
  intro before a after he
  exact h before a (after ++ rest) (by simp [he])

theorem Spaced.nodup_rtake {n : Nat} {list : List α} (h : Spaced n list) :
    (list.rtake n).Nodup := by
  induction list using List.reverseRecOn with
  | nil => simp
  | append_singleton list a ih =>
      have hnew : a ∉ list.rtake n := h list a [] rfl
      have hall : (list.rtake n ++ [a]).Nodup := by
        rw [← List.concat_eq_append]
        exact (ih h.of_append).concat hnew
      rw [← rtake_concat_rtake]
      exact (List.drop_suffix _ _).sublist.nodup hall

-- Between two places of one entry there are `n` others that differ from each
-- other: the last `n` entries before the second place.
theorem Spaced.others_between [DecidableEq α] {n : Nat} {early between late : List α} {a : α}
    (h : Spaced n (early ++ a :: (between ++ a :: late))) :
    n ≤ (between.toFinset.erase a).card := by
  have hsplit : early ++ a :: (between ++ a :: late) = (early ++ a :: between) ++ a :: late := by
    simp
  rw [hsplit] at h
  have hnew : a ∉ (early ++ a :: between).rtake n := h _ a late rfl
  have hlast : (early ++ a :: between).rtake n =
      early.rtake (n - (between.length + 1)) ++
      ([a].rtake (n - between.length) ++ between.rtake n) := by
    rw [rtake_append, ← List.singleton_append, rtake_append, List.length_append]
    simp [Nat.add_comm]
  have hlen : n ≤ between.length := by
    by_contra hshort
    obtain ⟨k, hk⟩ : ∃ k, n - between.length = k + 1 := ⟨n - between.length - 1, by omega⟩
    exact hnew (by rw [hlast, hk, show [a].rtake (k + 1) = [a] by simp [List.rtake]]; simp)
  have hnodup : (between.rtake n).Nodup := by
    have := h.of_append.nodup_rtake
    rw [hlast] at this
    exact (List.nodup_append.mp (List.nodup_append.mp this).2.1).2.1
  have hsub : (between.rtake n).toFinset ⊆ between.toFinset.erase a := by
    intro b hb
    rw [List.mem_toFinset] at hb
    refine Finset.mem_erase.mpr ⟨?_, List.mem_toFinset.mpr (List.mem_of_mem_drop hb)⟩
    rintro rfl
    exact hnew (by simp [hlast, hb])
  calc
    n = (between.rtake n).toFinset.card := by
      rw [List.toFinset_card_of_nodup hnodup, length_rtake, Nat.min_eq_left hlen]
    _ ≤ (between.toFinset.erase a).card := Finset.card_le_card hsub

-- Fewer than `n` other entries leave room for one place of `a` only.
theorem Spaced.count_le_one [DecidableEq α] {n : Nat} {early window late : List α} {a : α}
    (h : Spaced n (early ++ window ++ late)) (hfew : (window.toFinset.erase a).card < n) :
    window.count a ≤ 1 := by
  by_contra htwo
  obtain ⟨before, after, rfl, hfirst⟩ := List.eq_append_cons_of_mem
    (List.count_pos_iff.mp (show 0 < window.count a by omega))
  have hsecond : a ∈ after := by
    rw [List.count_append, List.count_eq_zero_of_not_mem hfirst, List.count_cons_self] at htwo
    exact List.count_pos_iff.mp (by omega)
  obtain ⟨between, rest, rfl⟩ := List.append_of_mem hsecond
  have hplaces : Spaced n ((early ++ before) ++ a :: (between ++ a :: (rest ++ late))) := by
    simpa using h
  have hothers := hplaces.others_between
  have hsub : between.toFinset.erase a ⊆
      (before ++ a :: (between ++ a :: rest)).toFinset.erase a := by
    apply Finset.erase_subset_erase
    intro b hb
    simp [List.mem_toFinset.mp hb]
  have := Finset.card_le_card hsub
  omega

end Spaced

namespace Cache

theorem contains_iff (c : Cache) (id : MessageId) : c.contains id = true ↔ id ∈ c.ids := by
  rw [contains, Std.ExtHashSet.contains_iff_mem, c.inStep.known_iff]

theorem ids_evict (room : Nat) (ids : List MessageId) (known : Std.ExtHashSet MessageId) :
    (evict room ids known).1 = ids.rtake room := by
  induction ids generalizing known with
  | nil => simp [evict]
  | cons oldest rest ih =>
      unfold evict
      split
      · rename_i hlong
        rw [ih, List.rtake, List.rtake, List.length_cons, Nat.succ_sub (Nat.lt_succ_iff.mp hlong),
          List.drop_succ_cons]
      · rename_i hshort
        rw [List.rtake, List.length_cons, Nat.sub_eq_zero_of_le (Nat.not_lt.mp hshort),
          List.drop_zero]

theorem insert_of_mem {c : Cache} {id : MessageId} (h : id ∈ c.ids) : c.insert id = (false, c) := by
  rw [insert, dif_pos ((c.inStep.known_iff id).mpr h)]

theorem insert_fst_eq_true_iff (c : Cache) (id : MessageId) :
    (c.insert id).1 = true ↔ id ∉ c.ids := by
  rw [← c.inStep.known_iff, insert]
  split <;> simp_all

@[simp] theorem insert_capacity (c : Cache) (id : MessageId) :
    (c.insert id).2.capacity = c.capacity := by
  rw [insert]
  split <;> rfl

theorem ids_insert_of_notMem {c : Cache} {id : MessageId} (h : id ∉ c.ids) :
    (c.insert id).2.ids = (c.ids ++ [id]).rtake c.capacity := by
  have hnew : id ∉ c.known := fun hmem => h ((c.inStep.known_iff id).mp hmem)
  rw [insert, dif_neg hnew]
  exact ids_evict _ _ _

theorem mem_insert {c : Cache} (hroom : 1 ≤ c.capacity) (id : MessageId) :
    id ∈ (c.insert id).2.ids := by
  by_cases h : id ∈ c.ids
  · rw [insert_of_mem h]
    exact h
  · rw [ids_insert_of_notMem h]
    exact mem_rtake_concat hroom c.ids id

theorem notMem_insert {c : Cache} {id other : MessageId} (hne : other ≠ id) (h : other ∉ c.ids) :
    other ∉ (c.insert id).2.ids := by
  by_cases hid : id ∈ c.ids
  · rw [insert_of_mem hid]
    exact h
  · rw [ids_insert_of_notMem hid]
    intro hmem
    rcases List.mem_append.mp (List.mem_of_mem_drop hmem) with hold | hone
    · exact h hold
    · exact hne (List.mem_singleton.mp hone)

-- The cache is what is left of all the ids that it let in so far.
structure Holds (c : Cache) (admitted : List MessageId) : Prop where
  ids_eq : c.ids = admitted.rtake c.capacity
  spaced : Spaced c.capacity admitted

theorem empty_holds (capacity : Nat) : (empty capacity).Holds [] :=
  ⟨by simp [empty], Spaced.nil _⟩

theorem Holds.insert {c : Cache} {admitted : List MessageId} (h : c.Holds admitted)
    (id : MessageId) :
    (c.insert id).2.Holds (admitted ++ if (c.insert id).1 then [id] else []) := by
  by_cases hid : id ∈ c.ids
  · simpa [insert_of_mem hid] using h
  · rw [(insert_fst_eq_true_iff c id).mpr hid, if_pos rfl]
    refine ⟨?_, ?_⟩
    · rw [ids_insert_of_notMem hid, insert_capacity, h.ids_eq, rtake_concat_rtake]
    · rw [insert_capacity]
      exact h.spaced.concat (h.ids_eq ▸ hid)

section Window

-- What is left after any ids were put to a cache, known ones and forgotten ones among them.
def after (c : Cache) (asked : List MessageId) : Cache :=
  asked.foldl (fun c id => (c.insert id).2) c

-- The ids that were new when they were put to the cache.
def admitted (c : Cache) : List MessageId → List MessageId
  | [] => []
  | id :: rest => (if (c.insert id).1 then [id] else []) ++ (c.insert id).2.admitted rest

variable {c : Cache} {before : List MessageId}

theorem Holds.after (h : c.Holds before) (asked : List MessageId) :
    (c.after asked).Holds (before ++ c.admitted asked) := by
  induction asked generalizing c before with
  | nil => simpa [Cache.after, admitted] using h
  | cons id rest ih =>
      have hrest := ih (h.insert id)
      rwa [List.append_assoc] at hrest

theorem after_capacity (c : Cache) (asked : List MessageId) :
    (c.after asked).capacity = c.capacity := by
  induction asked generalizing c with
  | nil => rfl
  | cons id rest ih => exact (ih _).trans (insert_capacity c id)

-- A cache is a window on the ids that it let in: it holds the last of them, as many as
-- there is room for, and it lets in what is not among those. What it holds already leaves
-- it as it is.
theorem holds_last_admitted (capacity : Nat) (asked : List MessageId) (id : MessageId) :
    let c := (empty capacity).after asked
    let admitted := (empty capacity).admitted asked
    let room := max capacity 1
    c.ids = admitted.rtake (min room admitted.length) ∧ c.ids.Nodup ∧
      (c.contains id = true ↔ id ∈ c.ids) ∧ c.size = min room admitted.length ∧
      c.known.size = c.size ∧ ((c.insert id).1 = true ↔ id ∉ c.ids) ∧ c.size ≤ room ∧
      (id ∈ c.ids → (c.insert id).2 = c) ∧ (c.insert id).2.contains id = true := by
  intro c admitted room
  have hcapacity : c.capacity = room := after_capacity (empty capacity) asked
  have hids : c.ids = admitted.rtake room := hcapacity ▸ ((empty_holds capacity).after asked).ids_eq
  have hsize : c.size = min room admitted.length := by rw [size, hids, length_rtake]
  have hwindow : admitted.rtake (min room admitted.length) = admitted.rtake room := by
    simp only [List.rtake]
    congr 1
    omega
  have hroom : 1 ≤ c.capacity := hcapacity ▸ Nat.le_max_right capacity 1
  refine ⟨hids.trans hwindow.symm, c.inStep.nodup, c.contains_iff id, hsize,
    size_of_mem_iff c.inStep.known_iff c.inStep.nodup,
    insert_fst_eq_true_iff c id, hsize ▸ Nat.min_le_left _ _, fun hmem => ?_, ?_⟩
  · rw [insert_of_mem hmem]
  · exact (contains_iff _ id).mpr (mem_insert hroom id)

end Window

end Cache

end Rumor
