import Rumor.Peers

namespace Rumor.Peers

-- An address that would be taken up.
def isNew (p : Peers) (address : String) : Bool :=
  p.isAdmissible address && !p.contains address

theorem add_eq (p : Peers) (address : String) : p.add address =
    if p.isNew address then
      (true, { p with members := p.members ++ [address], known := p.known.insert address })
    else (false, p) := by
  unfold add insert isNew
  cases p.isAdmissible address <;> cases p.contains address <;> rfl

@[simp] theorem add_self (p : Peers) (address : String) : (p.add address).2.self = p.self := by
  rw [add_eq]
  split <;> rfl

@[simp] theorem remove_self (p : Peers) (address : String) :
    (p.remove address).2.self = p.self := by
  unfold remove
  split <;> rfl

@[simp] theorem bound_self (p : Peers) : p.bound.2.self = p.self := rfl

@[simp] theorem add_degree (p : Peers) (address : String) :
    (p.add address).2.degree = p.degree := by
  rw [add_eq]
  split <;> rfl

@[simp] theorem remove_degree (p : Peers) (address : String) :
    (p.remove address).2.degree = p.degree := by
  unfold remove
  split <;> rfl

@[simp] theorem bound_degree (p : Peers) : p.bound.2.degree = p.degree := rfl

theorem size_remove_le (p : Peers) (address : String) : (p.remove address).2.size ≤ p.size := by
  unfold remove
  split
  · exact List.length_filter_le _ _
  · exact Nat.le_refl _

theorem size_bound_le (p : Peers) : p.bound.2.size ≤ p.degree := by
  simp only [bound, size, List.length_drop]
  omega

-- What `add` says of each address, one after the other, and what is left then.
def addEach (p : Peers) : List String → List Bool × Peers
  | [] => ([], p)
  | address :: rest =>
      let (new, p) := p.add address
      let (news, p) := p.addEach rest
      (new :: news, p)

theorem addEach_cons (p : Peers) (address : String) (rest : List String) :
    p.addEach (address :: rest) =
      ((p.add address).1 :: ((p.add address).2.addEach rest).1,
        ((p.add address).2.addEach rest).2) := rfl

-- Who may be a peer does not depend on who is one, so it makes no difference that all the
-- addresses are looked at before the first is put in.
theorem foldl_insertCounted {p q : Peers} (hself : q.self = p.self) (added : Nat)
    (addresses : List String) :
    (addresses.filter p.isAdmissible).foldl insertCounted (added, q) =
      (added + (q.addEach addresses).1.count true, (q.addEach addresses).2) := by
  induction addresses generalizing added q with
  | nil => rfl
  | cons address rest ih =>
      have hsame : q.isAdmissible address = p.isAdmissible address := by
        rw [isAdmissible, isAdmissible, hself]
      have hcount (new : Bool) (news : List Bool) :
          added + (new :: news).count true = added + new.toNat + news.count true := by
        cases new with
        | false => simp
        | true => simp [Nat.add_comm, Nat.add_left_comm]
      rw [addEach_cons, hcount, ← ih ((q.add_self address).trans hself)]
      by_cases hadmissible : p.isAdmissible address = true
      · have hadd : q.add address = q.insert address := if_pos (hsame.trans hadmissible)
        rw [List.filter_cons_of_pos hadmissible, List.foldl_cons, hadd]
        rfl
      · have hadd : q.add address = (false, q) := if_neg (hsame ▸ hadmissible)
        rw [List.filter_cons_of_neg hadmissible, hadd]
        rfl

theorem merge_eq_addEach (p : Peers) (addresses : List String) :
    p.merge addresses = ((p.addEach addresses).1.count true, (p.addEach addresses).2) := by
  rw [merge, foldl_insertCounted rfl, Nat.zero_add]

theorem merge_snd (p : Peers) (addresses : List String) :
    (p.merge addresses).2 = addresses.foldl (fun p address => (p.add address).2) p := by
  rw [merge_eq_addEach]
  induction addresses generalizing p with
  | nil => rfl
  | cons address rest ih => exact ih (p.add address).2

@[simp] theorem merge_self (p : Peers) (addresses : List String) :
    (p.merge addresses).2.self = p.self := by
  rw [merge_snd]
  induction addresses generalizing p with
  | nil => rfl
  | cons address rest ih => rw [List.foldl_cons, ih, add_self]

@[simp] theorem merge_degree (p : Peers) (addresses : List String) :
    (p.merge addresses).2.degree = p.degree := by
  rw [merge_snd]
  induction addresses generalizing p with
  | nil => rfl
  | cons address rest ih => rw [List.foldl_cons, ih, add_degree]

-- What is done about peers leaves the rest as it was.
theorem add_frame (p : Peers) (address : String) :
    (p.add address).2.seeds = p.seeds ∧ (p.add address).2.isSeed = p.isSeed := by
  rw [add_eq]
  split <;> exact ⟨rfl, rfl⟩

theorem remove_frame (p : Peers) (address : String) :
    (p.remove address).2.seeds = p.seeds ∧ (p.remove address).2.isSeed = p.isSeed := by
  unfold remove
  split <;> exact ⟨rfl, rfl⟩

theorem merge_frame (p : Peers) (addresses : List String) :
    (p.merge addresses).2.seeds = p.seeds ∧ (p.merge addresses).2.isSeed = p.isSeed := by
  rw [merge_snd]
  induction addresses generalizing p with
  | nil => exact ⟨rfl, rfl⟩
  | cons address rest ih =>
      obtain ⟨hseeds, hseed⟩ := ih (p.add address).2
      obtain ⟨hsame, hflag⟩ := p.add_frame address
      exact ⟨hseeds.trans hsame, hseed.trans hflag⟩

end Rumor.Peers
