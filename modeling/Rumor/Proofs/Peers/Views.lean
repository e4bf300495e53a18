import Mathlib.Data.Finset.Card
import Rumor.Proofs.Peers.Batches

-- What a node makes of the view of a registry.
namespace Rumor.Peers

variable {p : Peers} {view : View}

-- What stands in a view and could be a peer, but is none yet, as often as it stands there.
def unknown (p : Peers) (view : View) : List String :=
  view.peers.filter fun address => (address ≠ "" ∧ address ≠ p.self) ∧ address ∉ p.members

-- The seeds of a view are taken over before its peers are looked at.
def told (p : Peers) (view : View) : Peers :=
  { p with isSeed := view.seeds.contains p.self }.setSeeds view.seeds

theorem apply_eq (p : Peers) (view : View) :
    p.apply view = (((p.told view).merge view.peers).1,
      ((p.told view).merge view.peers).2.bound.2) := rfl

theorem Sound.told (h : Sound p) (view : View) : Sound (p.told view) :=
  (h.setSeed _).setSeeds view.seeds

theorem told_eq_self (hflag : view.seeds.contains p.self = p.isSeed)
    (hseeds : view.seeds.filter p.isAdmissible = p.seeds) : p.told view = p := by
  have htold : p.told view =
      { p with isSeed := view.seeds.contains p.self, seeds := view.seeds.filter p.isAdmissible } :=
    rfl
  rw [htold, hflag, hseeds]

theorem apply_frame (p : Peers) (view : View) :
    (p.apply view).2.isSeed = view.seeds.contains p.self ∧
    (p.apply view).2.seeds = view.seeds.filter p.isAdmissible := by
  obtain ⟨hseeds, hflag⟩ := (p.told view).merge_frame view.peers
  exact ⟨hflag, hseeds⟩

theorem Sound.filter_isNew (h : Sound p) (view : View) :
    view.peers.filter p.isNew = p.unknown view := by
  apply List.filter_congr
  intro address _
  rw [Bool.eq_iff_iff, h.isNew_iff, decide_eq_true_iff]

theorem Sound.members_merge_told (h : Sound p) (view : View) :
    ((p.told view).merge view.peers).2.members = p.members ++ (p.unknown view).eraseDups := by
  have hnew : view.peers.filter (p.told view).isNew = p.unknown view :=
    (h.told view).filter_isNew view
  rw [members_merge, hnew]
  rfl

theorem Sound.members_apply (h : Sound p) (view : View) :
    (p.apply view).2.members = (p.members ++ (p.unknown view).eraseDups).rtake p.degree := by
  rw [apply_eq, members_bound, merge_degree, h.members_merge_told]
  rfl

-- The peers of a node stand there once, so those that were added do.
theorem Sound.apply_fst (h : Sound p) (view : View) :
    (p.apply view).1 = (p.unknown view).toFinset.card := by
  have hnodup : (p.unknown view).eraseDups.Nodup := by
    have hall := ((h.told view).merge view.peers).nodup
    rw [h.members_merge_told, List.nodup_append] at hall
    exact hall.2.1
  have hsame : (p.unknown view).eraseDups.toFinset = (p.unknown view).toFinset := by
    ext address
    rw [List.mem_toFinset, List.mem_toFinset, List.mem_eraseDups]
  rw [← hsame, List.toFinset_card_of_nodup hnodup, apply_eq, merge_fst, (h.told view).filter_isNew]
  rfl

theorem Sound.apply_apply (h : Sound p)
    (hroom : (p.members ++ (p.unknown view).eraseDups).length ≤ p.degree) :
    (p.apply view).2.apply view = (0, (p.apply view).2) := by
  obtain ⟨hflag, hseeds⟩ := p.apply_frame view
  -- with room for all nothing is cut off, and what a view tells is known the second time
  let q := ((p.told view).merge view.peers).2
  have hself : q.self = p.self := merge_self _ _
  have hfits : q.size ≤ q.degree := by
    have hdegree : q.degree = p.degree := merge_degree _ _
    have hmembers : q.members = p.members ++ (p.unknown view).eraseDups := h.members_merge_told view
    rw [hdegree, size, hmembers]
    exact hroom
  have hsame : (p.apply view).2 = q := by
    show q.bound.2 = q
    rw [bound_of_size_le hfits]
  have htold : q.told view = q := by
    rw [hsame] at hflag hseeds
    apply told_eq_self
    · rw [hself, hflag]
    · rw [hseeds]
      apply List.filter_congr
      intro seed _
      rw [isAdmissible, isAdmissible, hself]
  rw [hsame, apply_eq, htold, (h.told view).merge_merge, bound_of_size_le hfits]

-- A view is taken over as it is: whether the node is a seed, the other seeds in their order,
-- and the addresses that were not known, each where it comes first, behind the peers and
-- with the oldest of all dropped. One that leaves room changes nothing a second time.
theorem view_taken_over (self : String) (degree : Nat) (ops : List Op) (view : View) :
    let p := (empty self degree).after ops
    let q := (p.apply view).2
    let unknown :=
      view.peers.filter fun address => (address ≠ "" ∧ address ≠ self) ∧ address ∉ p.members
    (q.isSeed = true ↔ self ∈ view.seeds) ∧
    q.seeds = view.seeds.filter (fun seed => seed ≠ "" ∧ seed ≠ self) ∧
    (p.apply view).1 = unknown.toFinset.card ∧
    q.members = (p.members ++ unknown.eraseDups).rtake degree ∧
    (∀ address, q.contains address = true ↔ address ∈ q.members) ∧
    ((p.members ++ unknown.eraseDups).length ≤ degree → q.apply view = (0, q)) := by
  intro p q unknown
  have h : Sound p := (sound_empty self degree).after ops
  have hself : p.self = self := after_self (empty self degree) ops
  have hdegree : p.degree = degree := after_degree (empty self degree) ops
  have hunknown : p.unknown view = unknown := by rw [Peers.unknown, hself]
  obtain ⟨hflag, hseeds⟩ := p.apply_frame view
  refine ⟨?_, ?_, ?_, ?_, (h.act (.apply view)).contains_iff, fun hroom => h.apply_apply ?_⟩
  · rw [hflag, hself, List.contains_iff_mem]
  · rw [hseeds]
    apply List.filter_congr
    intro seed _
    rw [Bool.eq_iff_iff, isAdmissible_iff, hself, decide_eq_true_iff]
  · rw [h.apply_fst, hunknown]
  · rw [h.members_apply, hunknown, hdegree]
  · rwa [hunknown, hdegree]

-- A view with the node itself, a peer of it and one address twice.
theorem view_taken_over_by_neighbour :
    let p := (empty "a" 3).after [.add "b"]
    let view : View := ⟨["c", "a", "b", "c", "d"], ["s", "a", ""]⟩
    let q := (p.apply view).2
    q.isSeed = true ∧ q.seeds = ["s"] ∧ (p.apply view).1 = 2 ∧ q.members = ["b", "c", "d"] ∧
      q.apply view = (0, q) := by
  intro p view q
  have hmembers : p.members = ["b"] := by
    simp [p, after, act, add, insert, empty, contains, isAdmissible]
  have hunknown :
      view.peers.filter (fun address => (address ≠ "" ∧ address ≠ "a") ∧ address ∉ p.members) =
      ["c", "c", "d"] := by
    rw [hmembers]
    decide
  obtain ⟨hflag, hseeds, hadded, hpeers, _, hagain⟩ := view_taken_over "a" 3 [.add "b"] view
  rw [hunknown] at hadded hpeers hagain
  rw [hmembers] at hpeers hagain
  exact ⟨hflag.mpr (by decide), hseeds.trans (by decide), hadded.trans (by decide),
    hpeers.trans (by decide), hagain (by decide)⟩

end Rumor.Peers
