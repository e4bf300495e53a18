import Mathlib.Algebra.BigOperators.Group.Finset.Piecewise
import Rumor.Proofs.Mailboxes

-- What becomes of the copies of a note that are offered to queues, the same queue more
-- than once among them.
namespace Rumor.Mailboxes

-- Each queue takes as many of the copies that are offered to it as it has room for.
theorem get?_deliver (m : Mailboxes) (names : List String) (note : Note) (name : String) :
    (m.deliver names note).2.get? name = (m.get? name).map fun q =>
      q.filled (names.count name) note := by
  induction names generalizing m with
  | nil => simp [deliver, Queue.filled_zero]
  | cons first names ih =>
      rw [deliver_cons, ih, get?_offer]
      by_cases hsame : name = first
      · subst hsame
        rw [if_pos rfl, Option.map_map, List.count_cons_self]
        congr 1
        funext q
        exact q.filled_offer _ note
      · rw [if_neg hsame, List.count_cons_of_ne (Ne.symm hsame)]

theorem length_waiting_offer (m : Mailboxes) (name : String) (note : Note) (other : String) :
    ((m.offer name note).2.waiting other).length =
      (m.waiting other).length + if other = name then (m.offer name note).1.toNat else 0 := by
  rw [offer_fst, waiting, get?_offer, waiting]
  by_cases hsame : other = name
  · subst hsame
    rw [if_pos rfl, if_pos rfl]
    cases m.get? other with
    | none => rfl
    | some q => cases hroom : q.hasRoom <;> simp [Queue.offer_snd, hroom]
  · rw [if_neg hsame, if_neg hsame, Nat.add_zero]

-- A copy that is offered is delivered or dropped.
theorem delivered_add_dropped (m : Mailboxes) (names : List String) (note : Note) :
    (m.deliver names note).1.delivered + (m.deliver names note).1.dropped = names.length := by
  induction names generalizing m with
  | nil => rfl
  | cons name names ih =>
      have hrest := ih (m.offer name note).2
      rw [deliver_cons, List.length_cons]
      cases (m.offer name note).1 <;> simp only [Bool.toNat_false, Bool.toNat_true, Bool.not_false,
        Bool.not_true] <;> omega

-- What is delivered waits in some queue.
theorem sum_waiting_deliver (m : Mailboxes) {names : List String} (note : Note) {s : Finset String}
    (hs : ∀ name ∈ names, name ∈ s) :
    ∑ name ∈ s, ((m.deliver names note).2.waiting name).length =
      ∑ name ∈ s, (m.waiting name).length + (m.deliver names note).1.delivered := by
  induction names generalizing m with
  | nil => rfl
  | cons name names ih =>
      obtain ⟨hname, hnames⟩ := List.forall_mem_cons.mp hs
      have hfirst : ∑ other ∈ s, ((m.offer name note).2.waiting other).length =
          ∑ other ∈ s, (m.waiting other).length + (m.offer name note).1.toNat := by
        simp only [length_waiting_offer, Finset.sum_add_distrib, Finset.sum_ite_eq', if_pos hname]
      rw [deliver_cons, ih _ hnames, hfirst, Nat.add_assoc]

end Rumor.Mailboxes
