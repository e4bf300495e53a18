import Rumor.Proofs.Peers.Merging

-- What is done with many addresses at once, taken apart: a list is merged one address after
-- the other, and a bound cuts the queue of the peers in two.
namespace Rumor.Peers

variable {p : Peers}

section Merge

theorem size_add (p : Peers) (address : String) :
    (p.add address).2.size = p.size + (p.add address).1.toNat := by
  rw [add_eq]
  split <;> simp [size]

theorem size_addEach (p : Peers) (addresses : List String) :
    (p.addEach addresses).2.size = p.size + (p.addEach addresses).1.count true := by
  induction addresses generalizing p with
  | nil => rfl
  | cons address rest ih =>
      rw [addEach_cons]
      dsimp only
      rw [ih, size_add, Nat.add_assoc]
      cases (p.add address).1 with
      | false => simp
      | true => simp [Nat.add_comm]

theorem size_merge (p : Peers) (addresses : List String) :
    (p.merge addresses).2.size = p.size + (p.merge addresses).1 := by
  rw [merge_eq_addEach, size_addEach]

theorem merge_fst (p : Peers) (addresses : List String) :
    (p.merge addresses).1 = (addresses.filter p.isNew).eraseDups.length := by
  have hsize := p.size_merge addresses
  rw [size, size, members_merge, List.length_append] at hsize
  omega

theorem merge_of_none_new {addresses : List String}
    (h : ∀ address ∈ addresses, ¬p.isNew address = true) : p.merge addresses = (0, p) := by
  rw [merge_eq_addEach]
  induction addresses with
  | nil => rfl
  | cons address rest ih =>
      obtain ⟨hold, hrest⟩ := List.forall_mem_cons.mp h
      obtain ⟨hcount, hsame⟩ := Prod.mk.inj (ih hrest)
      rw [addEach_cons, add_eq, if_neg hold]
      simp [hcount, hsame]

-- Whatever may be a peer has become one.
theorem Sound.merge_merge (h : Sound p) (addresses : List String) :
    (p.merge addresses).2.merge addresses = (0, (p.merge addresses).2) := by
  apply merge_of_none_new
  intro address hmem hnew
  rw [(h.merge addresses).isNew_iff, merge_self, members_merge, List.mem_append, not_or,
    List.mem_eraseDups] at hnew
  obtain ⟨hadmissible, hold, hlate⟩ := hnew
  exact hlate (List.mem_filter.mpr ⟨hmem, (h.isNew_iff address).mpr ⟨hadmissible, hold⟩⟩)

end Merge

section Bound

theorem bound_append (p : Peers) : p.bound.1 ++ p.bound.2.members = p.members :=
  List.take_append_drop _ _

theorem size_bound (p : Peers) : p.bound.2.size = min p.degree p.size :=
  length_rtake p.degree p.members

theorem contains_bound_iff (p : Peers) (address : String) :
    p.bound.2.contains address = true ↔ address ∉ p.bound.1 ∧ p.contains address = true := by
  rw [contains, contains, Std.ExtHashSet.contains_iff_mem, Std.ExtHashSet.contains_iff_mem]
  exact mem_foldl_erase p.bound.1 p.known

theorem bound_of_size_le (h : p.size ≤ p.degree) : p.bound = ([], p) := by
  have hnone : p.members.length - p.degree = 0 := Nat.sub_eq_zero_of_le h
  simp [bound, hnone]

end Bound

-- Merging a list is adding its addresses one by one, so what is merged once is known. A
-- bound cuts the oldest peers off, and they are found no more.
theorem merged_one_by_one_and_cut (self : String) (degree : Nat) (ops : List Op) :
    let p := (empty self degree).after ops
    (∀ addresses,
      p.merge addresses = ((p.addEach addresses).1.count true, (p.addEach addresses).2) ∧
      (p.merge addresses).2.size = p.size + (p.merge addresses).1 ∧
      (p.merge addresses).2.merge addresses = (0, (p.merge addresses).2)) ∧
    p.bound.1 ++ p.bound.2.members = p.members ∧ p.bound.2.size = min degree p.size ∧
    (∀ address ∈ p.bound.1, p.bound.2.contains address = false) ∧
    (∀ address ∉ p.bound.1, p.bound.2.contains address = p.contains address) ∧
    p.bound.2.bound = ([], p.bound.2) := by
  intro p
  have h : Sound p := (sound_empty self degree).after ops
  have hdegree : p.degree = degree := after_degree (empty self degree) ops
  refine ⟨fun addresses => ⟨p.merge_eq_addEach addresses, p.size_merge addresses, h.merge_merge addresses⟩,
    p.bound_append, hdegree ▸ p.size_bound, fun address hgone => ?_, fun address hkept => ?_, ?_⟩
  · rw [← Bool.not_eq_true, contains_bound_iff]
    exact fun hfound => hfound.1 hgone
  · rw [Bool.eq_iff_iff, contains_bound_iff]
    exact and_iff_right hkept
  · exact bound_of_size_le p.size_bound_le

-- Of two peers, one of which was named twice, the older has to go.
theorem older_of_two_cut :
    let p := (empty "a" 1).after [.merge ["b", "c", "b"]]
    p.members = ["b", "c"] ∧ p.bound.1 = ["b"] ∧ p.bound.2.contains "b" = false ∧
      p.bound.2.contains "c" = p.contains "c" ∧ p.bound.2.bound = ([], p.bound.2) := by
  intro p
  have hmembers : p.members = ["b", "c"] := by
    show ((empty "a" 1).merge ["b", "c", "b"]).2.members = _
    simp [merge_snd, add, insert, empty, contains, isAdmissible]
  have hdegree : p.degree = 1 := after_degree _ _
  have hgone : p.bound.1 = ["b"] := by simp [bound, hmembers, hdegree]
  obtain ⟨_, _, _, hcut, hkept, hagain⟩ := merged_one_by_one_and_cut "a" 1 [.merge ["b", "c", "b"]]
  refine ⟨hmembers, hgone, hcut "b" ?_, hkept "c" ?_, hagain⟩
  · show "b" ∈ p.bound.1
    rw [hgone]
    exact List.mem_singleton_self "b"
  · show "c" ∉ p.bound.1
    rw [hgone]
    decide

end Rumor.Peers
