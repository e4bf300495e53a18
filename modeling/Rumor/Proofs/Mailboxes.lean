import Rumor.Mailboxes
import Rumor.Proofs.Queue

namespace Rumor.Mailboxes

variable {m : Mailboxes} {name other : String} {note : Note}

theorem lookup_cons (box : String × Queue Note) (rest : List (String × Queue Note)) :
    (box :: rest).lookup name = if name = box.1 then some box.2 else rest.lookup name := by
  rw [List.lookup_cons]
  by_cases hsame : name = box.1
  · simp [hsame]
  · simp [hsame, beq_false_of_ne hsame]

theorem any_eq_isSome (m : Mailboxes) (name : String) :
    m.boxes.any (·.1 = name) = (m.get? name).isSome := by
  unfold get?
  induction m.boxes with
  | nil => rfl
  | cons box rest ih =>
      rw [List.any_cons, lookup_cons, ih]
      by_cases hsame : box.1 = name
      · simp [hsame]
      · simp [hsame, Ne.symm hsame]

theorem lookup_map (boxes : List (String × Queue Note)) (q : Queue Note) :
    (boxes.map fun b => if b.1 = name then (name, q) else b).lookup other =
      if other = name then (boxes.lookup name).map fun _ => q else boxes.lookup other := by
  induction boxes with
  | nil => simp
  | cons box rest ih =>
      rw [List.map_cons, lookup_cons, ih, lookup_cons, lookup_cons]
      by_cases hbox : box.1 = name
      · by_cases hsame : other = name <;> simp [hbox, hsame]
      · by_cases hsame : other = name
        · simp [hbox, Ne.symm hbox, hsame]
        · simp [hbox, hsame]

theorem get?_set (q : Queue Note) :
    (m.set name q).get? other = if other = name then some q else m.get? other := by
  unfold set
  rw [any_eq_isSome]
  split
  · rename_i hknown
    obtain ⟨old, hold⟩ := Option.isSome_iff_exists.mp hknown
    simp only [get?] at hold ⊢
    rw [lookup_map, hold]
    rfl
  · rename_i hnew
    have hnew := Option.not_isSome_iff_eq_none.mp hnew
    simp only [get?] at hnew ⊢
    rw [List.lookup_append, lookup_cons, List.lookup_nil]
    by_cases hsame : other = name
    · simp [hsame, hnew]
    · simp [hsame]

theorem get?_erase : (m.erase name).get? other = if other = name then none else m.get? other := by
  unfold erase get?
  induction m.boxes with
  | nil => simp
  | cons box rest ih =>
      rw [List.filter_cons, lookup_cons]
      by_cases hbox : box.1 = name
      · rw [if_neg (by simp [hbox]), ih, hbox]
        by_cases hsame : other = name <;> simp [hsame]
      · rw [if_pos (by simp [hbox]), lookup_cons, ih]
        by_cases hsame : other = name
        · simp [hsame, Ne.symm hbox]
        · simp [hsame]

theorem get?_ensure (capacity : Nat) : (m.ensure name capacity).get? other =
    if other = name then some ((m.get? name).getD (.empty capacity)) else m.get? other := by
  unfold ensure
  rw [any_eq_isSome]
  split
  · rename_i hknown
    obtain ⟨q, hq⟩ := Option.isSome_iff_exists.mp hknown
    split
    · rename_i hsame
      rw [hsame, hq]
      rfl
    · rfl
  · rename_i hnew
    rw [get?_set, Option.not_isSome_iff_eq_none.mp hnew]
    rfl

theorem offer_of_hasRoom {q : Queue Note} (hq : m.get? name = some q) (hroom : q.hasRoom = true)
    (note : Note) : m.offer name note = (true, m.set name (q.offer note).2) := by
  simp only [offer, hq, Queue.offer_of_hasRoom hroom]

theorem offer_of_not_hasRoom (h : (m.get? name).elim false Queue.hasRoom = false) (note : Note) :
    m.offer name note = (false, m) := by
  unfold offer
  cases hq : m.get? name with
  | none => rfl
  | some q =>
      rw [hq, Option.elim_some] at h
      have hrefused := (Queue.offer_of_not_hasRoom h note).1
      dsimp only
      split
      · rename_i hoffer
        exact absurd (congrArg (·.1) hoffer) hrefused
      · rfl

theorem offer_fst (m : Mailboxes) (name : String) (note : Note) :
    (m.offer name note).1 = (m.get? name).elim false Queue.hasRoom := by
  cases hroom : (m.get? name).elim false Queue.hasRoom with
  | false => rw [offer_of_not_hasRoom hroom]
  | true =>
      cases hq : m.get? name with
      | none => simp [hq] at hroom
      | some q =>
          rw [hq] at hroom
          rw [offer_of_hasRoom hq hroom]

-- A note that is offered comes last in its queue or is lost, and no other queue
-- sees it.
theorem get?_offer (note : Note) : (m.offer name note).2.get? other =
    if other = name then (m.get? name).map fun q => (q.offer note).2 else m.get? other := by
  cases hq : m.get? name with
  | none =>
      rw [offer_of_not_hasRoom (by rw [hq]; rfl)]
      split
      · rename_i hsame
        rw [hsame, hq, Option.map_none]
      · rfl
  | some q =>
      rw [Option.map_some]
      cases hroom : q.hasRoom with
      | false =>
          rw [offer_of_not_hasRoom (by rw [hq]; exact hroom),
            (Queue.offer_of_not_hasRoom hroom note).2]
          split
          · rename_i hsame
            rw [hsame, hq]
          · rfl
      | true => rw [offer_of_hasRoom hq hroom, get?_set]

section Deliver

def offerCounted (note : Note) (counted : Tally × Mailboxes) (name : String) : Tally × Mailboxes :=
  let (taken, m) := counted.2.offer name note
  (⟨counted.1.delivered + taken.toNat, counted.1.dropped + (!taken).toNat⟩, m)

theorem deliver_eq_foldl (m : Mailboxes) (names : List String) (note : Note) :
    m.deliver names note = names.foldl (offerCounted note) (⟨0, 0⟩, m) := by
  rw [deliver]
  congr 1
  funext counted name
  rcases hoffer : counted.2.offer name note with ⟨_ | _, m'⟩ <;> simp [offerCounted, hoffer]

-- What was counted before makes no difference to what is counted later.
theorem foldl_offerCounted (tally : Tally) (m : Mailboxes) (names : List String) (note : Note) :
    names.foldl (offerCounted note) (tally, m) =
      (⟨tally.delivered + (m.deliver names note).1.delivered,
        tally.dropped + (m.deliver names note).1.dropped⟩, (m.deliver names note).2) := by
  rw [deliver_eq_foldl]
  induction names generalizing tally m with
  | nil => rfl
  | cons name names ih =>
      simp only [List.foldl_cons, offerCounted]
      rw [ih, ih ⟨0 + _, 0 + _⟩]
      simp only [Nat.zero_add, Nat.add_assoc]

-- A delivery is an offer to the first, and a delivery to the others.
theorem deliver_cons (m : Mailboxes) (name : String) (names : List String) (note : Note) :
    let first := m.offer name note
    let rest := first.2.deliver names note
    m.deliver (name :: names) note =
      (⟨first.1.toNat + rest.1.delivered, (!first.1).toNat + rest.1.dropped⟩, rest.2) := by
  intro first rest
  rw [deliver_eq_foldl, List.foldl_cons, offerCounted]
  simp only [foldl_offerCounted, Nat.zero_add]
  rfl

-- Apart from the tally, a delivery is one offer after another.
theorem deliver_snd (m : Mailboxes) (names : List String) (note : Note) :
    (m.deliver names note).2 = names.foldl (fun m name => (m.offer name note).2) m := by
  induction names generalizing m with
  | nil => rfl
  | cons name names ih => rw [deliver_cons, List.foldl_cons, ih]

end Deliver

section Waiting

def waiting (m : Mailboxes) (name : String) : List Note :=
  (m.get? name).elim [] Queue.items

theorem waiting_congr {m' : Mailboxes} (h : m'.get? name = m.get? name) :
    m'.waiting name = m.waiting name := by
  rw [waiting, h, waiting]

theorem waiting_ensure (capacity : Nat) :
    (m.ensure name capacity).waiting name = m.waiting name := by
  rw [waiting, get?_ensure, if_pos rfl, waiting]
  cases m.get? name <;> rfl

theorem waiting_set (q : Queue Note) : (m.set name q).waiting name = q.items := by
  rw [waiting, get?_set, if_pos rfl]
  rfl

theorem waiting_erase : (m.erase name).waiting name = [] := by
  rw [waiting, get?_erase, if_pos rfl]
  rfl

theorem waiting_of_take? {q : Queue Note} (h : (m.get? name).bind Queue.take? = some (note, q)) :
    m.waiting name = note :: q.items := by
  obtain ⟨q', hq', htake⟩ := Option.bind_eq_some_iff.mp h
  rw [waiting, hq']
  exact (Queue.items_of_take? htake).2

theorem waiting_offer (note : Note) :
    ((m.offer name note).2.waiting other).Sublist
      (m.waiting other ++ if name = other then [note] else []) := by
  by_cases hsame : other = name
  · subst hsame
    rw [waiting, get?_offer, if_pos rfl, if_pos rfl, waiting]
    cases m.get? other with
    | none => exact List.nil_sublist _
    | some q =>
        simp only [Option.map_some, Option.elim_some, Queue.offer_snd]
        split
        · exact List.Sublist.refl _
        · exact List.sublist_append_left _ _
  · have hother : (m.offer name note).2.get? other = m.get? other := by
      rw [get?_offer, if_neg hsame]
    exact (waiting_congr hother).symm ▸ List.sublist_append_left _ _

end Waiting

end Rumor.Mailboxes
