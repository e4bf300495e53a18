import Rumor.Proofs.Listed
import Rumor.Proofs.Peers

-- The peers of a node and the set in which they are looked up are changed apart, and
-- stay in step.
namespace Rumor.Peers

-- What a node does with its peers and seeds.
inductive Op
  | add (address : String)
  | remove (address : String)
  | merge (addresses : List String)
  | bound
  | setSeeds (seeds : List String)
  | setSeed (isSeed : Bool)
  | apply (view : View)

def act (p : Peers) : Op → Peers
  | .add address => (p.add address).2
  | .remove address => (p.remove address).2
  | .merge addresses => (p.merge addresses).2
  | .bound => p.bound.2
  | .setSeeds seeds => p.setSeeds seeds
  | .setSeed isSeed => { p with isSeed }
  | .apply view => (p.apply view).2

def after (p : Peers) (ops : List Op) : Peers :=
  ops.foldl act p

-- The set holds the peers, each of them stands in one place, and neither peers nor seeds
-- are addresses that a node must not send to.
structure Sound (p : Peers) : Prop where
  known : ∀ address, address ∈ p.known ↔ address ∈ p.members
  nodup : p.members.Nodup
  members : ∀ address ∈ p.members, p.isAdmissible address = true
  seeds : ∀ seed ∈ p.seeds, p.isAdmissible seed = true

variable {p : Peers} {address : String}

theorem isAdmissible_iff : p.isAdmissible address = true ↔ address ≠ "" ∧ address ≠ p.self := by
  simp [isAdmissible]

theorem sound_empty (self : String) (degree : Nat) : Sound (empty self degree) where
  known := by simp [empty]
  nodup := List.nodup_nil
  members := by simp [empty]
  seeds := by simp [empty]

theorem Sound.contains_iff (h : Sound p) (address : String) :
    p.contains address = true ↔ address ∈ p.members := by
  rw [contains, Std.ExtHashSet.contains_iff_mem, h.known]

theorem Sound.size_known (h : Sound p) : p.known.size = p.members.length :=
  size_of_mem_iff h.known h.nodup

theorem Sound.add (h : Sound p) (address : String) : Sound (p.add address).2 := by
  rw [add_eq]
  split
  · rename_i hnew
    obtain ⟨hadmissible, hunknown⟩ := Bool.and_eq_true_iff.mp hnew
    have hfresh : address ∉ p.members := by
      intro hmem
      rw [(h.contains_iff address).mpr hmem] at hunknown
      cases hunknown
    constructor
    · intro other
      rw [Std.ExtHashSet.mem_insert, h.known, List.mem_append, List.mem_singleton, beq_iff_eq]
      exact ⟨fun hother => hother.symm.imp_right Eq.symm,
        fun hother => hother.symm.imp_left Eq.symm⟩
    · exact List.nodup_append.mpr ⟨h.nodup, by simp, fun a ha b hb =>
        List.mem_singleton.mp hb ▸ ne_of_mem_of_not_mem ha hfresh⟩
    · intro other hother
      rcases List.mem_append.mp hother with hold | hone
      · exact h.members other hold
      · exact List.mem_singleton.mp hone ▸ hadmissible
    · exact h.seeds
  · exact h

theorem Sound.remove (h : Sound p) (address : String) : Sound (p.remove address).2 := by
  unfold Peers.remove
  split
  · constructor
    · intro other
      rw [Std.ExtHashSet.mem_erase, h.known, List.mem_filter, beq_eq_false_iff_ne]
      simp only [decide_eq_true_eq]
      exact ⟨fun ⟨hne, hmem⟩ => ⟨hmem, hne.symm⟩, fun ⟨hmem, hne⟩ => ⟨hne.symm, hmem⟩⟩
    · exact h.nodup.filter _
    · exact fun other hother => h.members other (List.mem_filter.mp hother).1
    · exact h.seeds
  · exact h

theorem Sound.merge (h : Sound p) (addresses : List String) : Sound (p.merge addresses).2 := by
  rw [merge_snd]
  induction addresses generalizing p with
  | nil => exact h
  | cons address rest ih => exact ih (h.add address)

theorem mem_foldl_erase (evicted : List String) (known : Std.ExtHashSet String) :
    address ∈ evicted.foldl (fun known address => known.erase address) known ↔
      address ∉ evicted ∧ address ∈ known := by
  induction evicted generalizing known with
  | nil => simp
  | cons gone rest ih =>
      rw [List.foldl_cons, ih, Std.ExtHashSet.mem_erase, List.mem_cons, not_or, beq_eq_false_iff_ne]
      exact ⟨fun ⟨hrest, hne, hmem⟩ => ⟨⟨hne.symm, hrest⟩, hmem⟩,
        fun ⟨⟨hne, hrest⟩, hmem⟩ => ⟨hrest, Ne.symm hne, hmem⟩⟩

-- Those who go are the first in the queue, and no other entry is of them.
theorem Sound.bound (h : Sound p) : Sound p.bound.2 := by
  let excess := p.members.length - p.degree
  have hsplit : p.members.take excess ++ p.members.drop excess = p.members :=
    List.take_append_drop excess p.members
  have hapart : ∀ a ∈ p.members.take excess, a ∉ p.members.drop excess := by
    have hnodup := h.nodup
    rw [← hsplit, List.nodup_append] at hnodup
    exact fun a hgone hkept => hnodup.2.2 a hgone a hkept rfl
  constructor
  · intro address
    show
      address ∈ (p.members.take excess).foldl (fun known address => known.erase address) p.known ↔
        address ∈ p.members.drop excess
    rw [mem_foldl_erase, h.known]
    constructor
    · rintro ⟨hstays, hmem⟩
      rw [← hsplit] at hmem
      exact (List.mem_append.mp hmem).resolve_left hstays
    · intro hkept
      exact ⟨fun hgone => hapart address hgone hkept, List.mem_of_mem_drop hkept⟩
  · exact h.nodup.sublist (List.drop_sublist _ _)
  · exact fun address hkept => h.members address (List.mem_of_mem_drop hkept)
  · exact h.seeds

theorem Sound.setSeeds (h : Sound p) (seeds : List String) : Sound (p.setSeeds seeds) where
  known := h.known
  nodup := h.nodup
  members := h.members
  seeds _ hseed := (List.mem_filter.mp hseed).2

theorem Sound.setSeed (h : Sound p) (isSeed : Bool) : Sound { p with isSeed } :=
  ⟨h.known, h.nodup, h.members, h.seeds⟩

theorem Sound.act (h : Sound p) (op : Op) : Sound (p.act op) := by
  cases op with
  | add address => exact h.add address
  | remove address => exact h.remove address
  | merge addresses => exact h.merge addresses
  | bound => exact h.bound
  | setSeeds seeds => exact h.setSeeds seeds
  | setSeed isSeed => exact h.setSeed isSeed
  | apply view => exact (((h.setSeed _).setSeeds view.seeds).merge view.peers).bound

theorem Sound.after (h : Sound p) (ops : List Op) : Sound (p.after ops) := by
  induction ops generalizing p with
  | nil => exact h
  | cons op rest ih => exact ih (h.act op)

theorem act_self (p : Peers) (op : Op) : (p.act op).self = p.self := by
  cases op with
  | apply view =>
      show (((({ p with isSeed := _ } : Peers).setSeeds view.seeds).merge view.peers).2).self =
        p.self
      rw [merge_self]
      rfl
  | _ => simp [act, setSeeds]

theorem after_self (p : Peers) (ops : List Op) : (p.after ops).self = p.self := by
  induction ops generalizing p with
  | nil => rfl
  | cons op rest ih => exact (ih (p.act op)).trans (act_self p op)

theorem act_degree (p : Peers) (op : Op) : (p.act op).degree = p.degree := by
  cases op with
  | apply view =>
      show (((({ p with isSeed := _ } : Peers).setSeeds view.seeds).merge view.peers).2).degree =
        p.degree
      rw [merge_degree]
      rfl
  | _ => simp [act, setSeeds]

theorem after_degree (p : Peers) (ops : List Op) : (p.after ops).degree = p.degree := by
  induction ops generalizing p with
  | nil => rfl
  | cons op rest ih => exact (ih (p.act op)).trans (act_degree p op)

-- Whether an operation is on the peers alone, and not on the seeds.
def Op.isOnMembers : Op → Bool
  | .add _ | .remove _ | .merge _ | .bound => true
  | .setSeeds _ | .setSeed _ | .apply _ => false

theorem act_frame {op : Op} (h : op.isOnMembers = true) :
    (p.act op).seeds = p.seeds ∧ (p.act op).isSeed = p.isSeed := by
  cases op with
  | add address => exact p.add_frame address
  | remove address => exact p.remove_frame address
  | merge addresses => exact p.merge_frame addresses
  | bound => exact ⟨rfl, rfl⟩
  | setSeeds seeds => cases h
  | setSeed isSeed => cases h
  | apply view => cases h

theorem after_frame {ops : List Op} (h : ∀ op ∈ ops, op.isOnMembers = true) :
    (p.after ops).seeds = p.seeds ∧ (p.after ops).isSeed = p.isSeed := by
  induction ops generalizing p with
  | nil => exact ⟨rfl, rfl⟩
  | cons op rest ih =>
      obtain ⟨hop, hrest⟩ := List.forall_mem_cons.mp h
      obtain ⟨hseeds, hseed⟩ := ih (p := p.act op) hrest
      obtain ⟨hsame, hflag⟩ := act_frame (p := p) hop
      exact ⟨hseeds.trans hsame, hseed.trans hflag⟩

theorem mem_seeds_of_seed? {seed : String} {pick : Nat} (h : p.seed? pick = some seed) :
    seed ∈ p.seeds :=
  List.mem_of_getElem? h

-- After whatever was done, looking a peer up and reading the list of peers agree, and a
-- node knows no empty address and not its own.
theorem peers_as_known_after (self : String) (degree : Nat) (ops : List Op) :
    let p := (empty self degree).after ops
    (∀ address, address ∈ p.known ↔ address ∈ p.members) ∧ p.members.Nodup ∧
      (∀ address, p.contains address = true ↔ address ∈ p.members) ∧
      p.known.size = p.members.length ∧ p.size = p.members.length ∧
      (∀ address ∈ p.members ++ p.seeds, address ≠ "" ∧ address ≠ self) ∧
      ∀ pick seed, p.seed? pick = some seed → seed ∈ p.seeds ∧ seed ≠ self := by
  intro p
  have h : Sound p := (sound_empty self degree).after ops
  have hself : p.self = self := after_self (empty self degree) ops
  have hall : ∀ address ∈ p.members ++ p.seeds, address ≠ "" ∧ address ≠ self := by
    intro address hmem
    rw [← hself]
    apply isAdmissible_iff.mp
    rcases List.mem_append.mp hmem with hmember | hseed
    · exact h.members address hmember
    · exact h.seeds address hseed
  refine ⟨h.known, h.nodup, h.contains_iff, h.size_known, rfl, hall, fun pick seed hpick => ?_⟩
  have hseed := mem_seeds_of_seed? hpick
  exact ⟨hseed, (hall seed (List.mem_append_right _ hseed)).2⟩

end Rumor.Peers
