import Mathlib.Data.List.DropRight
import Rumor.Proofs.Peers.Representation

-- What a list of addresses adds to the peers of a node.
namespace Rumor.Peers

variable {p p' : Peers}

theorem eraseDups_of_nodup {list : List String} (h : list.Nodup) : list.eraseDups = list := by
  induction list with
  | nil => rfl
  | cons address rest ih =>
      obtain ⟨hfirst, hrest⟩ := List.nodup_cons.mp h
      have hfilter : rest.filter (fun other => !other == address) = rest := by
        rw [List.filter_eq_self]
        intro other hother
        simpa using ne_of_mem_of_not_mem hother hfirst
      rw [List.eraseDups_cons, hfilter, ih hrest]

theorem isNew_iff (hknown : ∀ address, address ∈ p.known ↔ address ∈ p.members) (address : String) :
    p.isNew address = true ↔ (address ≠ "" ∧ address ≠ p.self) ∧ address ∉ p.members := by
  rw [isNew, Bool.and_eq_true, isAdmissible_iff, Bool.not_eq_true', ← Bool.not_eq_true,
    contains, Std.ExtHashSet.contains_iff_mem, hknown]

theorem Sound.isNew_iff (h : Sound p) (address : String) :
    p.isNew address = true ↔ (address ≠ "" ∧ address ≠ p.self) ∧ address ∉ p.members :=
  Peers.isNew_iff h.known address

theorem add_of_isNew {address : String} (h : p.isNew address = true) : (p.add address).2 =
    { p with members := p.members ++ [address], known := p.known.insert address } := by
  rw [add_eq, if_pos h]

theorem add_of_not_isNew {address : String} (h : ¬p.isNew address = true) :
    (p.add address).2 = p := by
  rw [add_eq, if_neg h]

-- An address is new once.
theorem isNew_add {address : String} (h : p.isNew address = true) (other : String) :
    (p.add address).2.isNew other = (!other == address && p.isNew other) := by
  rw [add_of_isNew h]
  simp only [isNew, isAdmissible, contains, Std.ExtHashSet.contains_insert, Bool.not_or]
  rw [Bool.and_left_comm, Bool.beq_comm (a := other)]

-- New addresses stand behind the peers that are known, each where it comes first.
theorem members_merge (p : Peers) (addresses : List String) :
    (p.merge addresses).2.members = p.members ++ (addresses.filter p.isNew).eraseDups := by
  rw [merge_snd]
  induction addresses generalizing p with
  | nil => simp
  | cons address rest ih =>
      rw [List.foldl_cons, ih]
      by_cases hnew : p.isNew address = true
      · have hrest : rest.filter (p.add address).2.isNew =
            (rest.filter p.isNew).filter (fun b => !b == address) := by
          rw [List.filter_filter]
          exact List.filter_congr fun other _ => isNew_add hnew other
        rw [hrest, List.filter_cons_of_pos hnew, List.eraseDups_cons, add_of_isNew hnew,
          List.append_assoc]
        rfl
      · rw [add_of_not_isNew hnew, List.filter_cons_of_neg hnew]

theorem members_bound (p : Peers) : p.bound.2.members = p.members.rtake p.degree := rfl

section Members

theorem filter_ne_of_notMem {members : List String} {address : String} (h : address ∉ members) :
    members.filter (· ≠ address) = members := by
  rw [List.filter_eq_self]
  intro other hother
  exact decide_eq_true (ne_of_mem_of_not_mem hother h)

variable {address : String} (hknown : ∀ address, address ∈ p.known ↔ address ∈ p.members)

include hknown

theorem members_remove (address : String) :
    (p.remove address).2.members = p.members.filter (· ≠ address) := by
  by_cases hmem : address ∈ p.members
  · have hcontains : p.contains address = true :=
      Std.ExtHashSet.contains_iff_mem.mpr ((hknown address).mpr hmem)
    rw [remove, if_pos hcontains]
  · have hcontains : ¬p.contains address = true := fun h =>
      hmem ((hknown address).mp (Std.ExtHashSet.contains_iff_mem.mp h))
    rw [remove, if_neg hcontains, filter_ne_of_notMem hmem]

theorem members_add_bound (hadmissible : address ≠ "" ∧ address ≠ p.self) :
    (p.add address).2.bound.2.members =
      (if address ∈ p.members then p.members else p.members ++ [address]).rtake p.degree := by
  rw [members_bound, add_degree]
  by_cases hmem : address ∈ p.members
  · rw [if_pos hmem, add_of_not_isNew fun h => ((isNew_iff hknown address).mp h).2 hmem]
  · rw [if_neg hmem, add_of_isNew ((isNew_iff hknown address).mpr ⟨hadmissible, hmem⟩)]

theorem members_merge_bound (list : List String) :
    let new := list.filter fun a => (a ≠ "" ∧ a ≠ p.self) ∧ a ∉ p.members
    (p.merge list).2.bound.2.members = (p.members ++ new.eraseDups).rtake p.degree := by
  have hnew : list.filter p.isNew = list.filter fun a => (a ≠ "" ∧ a ≠ p.self) ∧ a ∉ p.members :=
    List.filter_congr fun a _ => by rw [Bool.eq_iff_iff, isNew_iff hknown, decide_eq_true_iff]
  rw [members_bound, members_merge, merge_degree, hnew]

end Members

-- What a node makes of all the peers of another.
theorem Sound.members_learned (h : Sound p) (h' : Sound p') :
    let new := p'.members.filter fun address => address ∉ p.members ∧ address ≠ p.self
    (p.merge p'.members).2.bound.2.members = (p.members ++ new).rtake p.degree := by
  have hnew : (p'.members.filter fun a => (a ≠ "" ∧ a ≠ p.self) ∧ a ∉ p.members) =
      p'.members.filter fun address => address ∉ p.members ∧ address ≠ p.self := by
    apply List.filter_congr
    intro address hmem
    have hsome := (isAdmissible_iff.mp (h'.members address hmem)).1
    simp [hsome, and_comm]
  rw [members_merge_bound h.known, hnew, eraseDups_of_nodup (h'.nodup.filter _)]

-- The set in which peers are looked up follows from the rest.
theorem Sound.ext (h : Sound p) (h' : Sound p') (hself : p.self = p'.self)
    (hdegree : p.degree = p'.degree)
    (hmembers : p.members = p'.members) (hseeds : p.seeds = p'.seeds)
    (hseed : p.isSeed = p'.isSeed) : p = p' := by
  have hknown : p.known = p'.known := by
    apply Std.ExtHashSet.ext_mem
    intro address
    rw [h.known, h'.known, hmembers]
  obtain ⟨self, degree, members, known, seeds, isSeed⟩ := p
  obtain rfl : self = p'.self := hself
  obtain rfl : degree = p'.degree := hdegree
  obtain rfl : members = p'.members := hmembers
  obtain rfl : known = p'.known := hknown
  obtain rfl : seeds = p'.seeds := hseeds
  obtain rfl : isSeed = p'.isSeed := hseed
  rfl

-- Any addresses will do, as long as none stands twice and all can be sent to.
theorem sound_ofList {self : String} {members seeds : List String} (hnodup : members.Nodup)
    (hall : ∀ address ∈ members ++ seeds, address ≠ "" ∧ address ≠ self) (degree : Nat)
    (isSeed : Bool) : Sound ⟨self, degree, members, .ofList members, seeds, isSeed⟩ where
  known _ := mem_ofList_iff
  nodup := hnodup
  members address h := isAdmissible_iff.mpr (hall address (List.mem_append_left seeds h))
  seeds seed h := isAdmissible_iff.mpr (hall seed (List.mem_append_right members h))

-- What is sound is what a node can come to, and no more.
theorem sound_iff_reached : Sound p ↔ ∃ ops, p = (empty p.self p.degree).after ops := by
  constructor
  · intro h
    let ops : List Op := [.merge p.members, .setSeeds p.seeds, .setSeed p.isSeed]
    let last := (empty p.self p.degree).after ops
    have hself : last.self = p.self := after_self _ ops
    have hlast : Sound last := (sound_empty p.self p.degree).after ops
    have hmembers : last.members = p.members := by
      show ((empty p.self p.degree).merge p.members).2.members = p.members
      have hnew : p.members.filter (empty p.self p.degree).isNew = p.members := by
        rw [List.filter_eq_self]
        intro address hmem
        exact ((sound_empty p.self p.degree).isNew_iff address).mpr
          ⟨isAdmissible_iff.mp (h.members address hmem), List.not_mem_nil⟩
      rw [members_merge, hnew, eraseDups_of_nodup h.nodup]
      rfl
    have hdegree : last.degree = p.degree := (empty p.self p.degree).merge_degree p.members
    have hseeds : last.seeds = p.seeds := by
      show p.seeds.filter ((empty p.self p.degree).merge p.members).2.isAdmissible = p.seeds
      rw [List.filter_eq_self]
      intro seed hseed
      have hadmissible := h.seeds seed hseed
      rw [isAdmissible_iff] at hadmissible ⊢
      rwa [merge_self]
    exact ⟨ops, h.ext hlast hself.symm hdegree.symm hmembers.symm hseeds.symm rfl⟩
  · rintro ⟨ops, hp⟩
    exact hp ▸ (sound_empty p.self p.degree).after ops

end Rumor.Peers
