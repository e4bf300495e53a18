import Mathlib.Algebra.BigOperators.Intervals
import Mathlib.Algebra.Order.BigOperators.Group.List
import Mathlib.Tactic.Ring
import Rumor.Proofs.Overlay

namespace Rumor

-- Each hop multiplies by `F`, the first one included.
theorem sum_pow_succ (F n : Nat) :
    ∑ j ∈ Finset.Icc 1 (n + 1), F ^ j = F * (1 + ∑ j ∈ Finset.Icc 1 n, F ^ j) := by
  induction n with
  | zero => simp
  | succ n ih =>
      calc
        ∑ j ∈ Finset.Icc 1 (n + 1 + 1), F ^ j =
          ∑ j ∈ Finset.Icc 1 (n + 1), F ^ j + F ^ (n + 1 + 1) :=
          Finset.sum_Icc_succ_top (by omega) _
        _ = F * (1 + (∑ j ∈ Finset.Icc 1 n, F ^ j + F ^ (n + 1))) := by rw [ih]; ring
        _ = F * (1 + ∑ j ∈ Finset.Icc 1 (n + 1), F ^ j) := by
          rw [Finset.sum_Icc_succ_top (by omega)]

-- How many messages may come of one, if no node hands it to more than `F` peers
-- and none takes it for a duplicate.
def Message.load (F : Nat) (m : Message) : Nat :=
  match m.kind? with
  | none | some .listResponse => 0
  | some .listRequest => 1
  | some _ => ∑ j ∈ Finset.Icc 1 (m.ttl.toInt - 1).toNat, F ^ j

theorem Message.load_of_isFlooded {m : Message} (F : Nat) (h : m.isFlooded = true) :
    m.load F = ∑ j ∈ Finset.Icc 1 (m.ttl.toInt - 1).toNat, F ^ j := by
  unfold Message.isFlooded at h
  unfold load
  split <;> simp_all [Engine.isFlooded]

-- A message with what may come of it.
def Send.cost (F : Nat) (send : Send) : Nat :=
  1 + send.message.load F

namespace Engine

variable {H : Digest} {draw : Draw} {kind : Kind} {m : Message} {e : Engine} {F : Nat}

-- Copies for `F` peers at most, each with one hop less to go.
theorem cost_copies_le {sends : List Send} (hflood : m.isFlooded = true) (hlen : sends.length ≤ F)
    (hcopy : ∀ send ∈ sends, IsCopy H e m send) :
    (sends.map (Send.cost F)).sum ≤ ∑ j ∈ Finset.Icc 1 m.ttl.toInt.toNat, F ^ j := by
  rcases sends.eq_nil_or_concat with rfl | ⟨_, last, hlast⟩
  · exact Nat.zero_le _
  · have hlive := one_le_ttl_iff.mp (hcopy last (by simp [hlast])).hops
    have hcost : ∀ cost ∈ sends.map (Send.cost F),
        cost ≤ 1 + ∑ j ∈ Finset.Icc 1 (m.ttl.toInt - 1).toNat, F ^ j := by
      intro cost hmem
      obtain ⟨send, hsend, rfl⟩ := List.mem_map.mp hmem
      have hc := hcopy send hsend
      have hf : send.message.isFlooded = true := by
        rw [Message.isFlooded, Message.kind?, hc.kind_eq]
        exact hflood
      rw [Send.cost, Message.load_of_isFlooded F hf, hc.ttl_eq]
    have hhops : m.ttl.toInt.toNat = (m.ttl.toInt - 1).toNat + 1 := by omega
    calc
      (sends.map (Send.cost F)).sum ≤
          sends.length * (1 + ∑ j ∈ Finset.Icc 1 (m.ttl.toInt - 1).toNat, F ^ j) := by
        simpa using List.sum_le_card_nsmul _ _ hcost
      _ ≤ F * (1 + ∑ j ∈ Finset.Icc 1 (m.ttl.toInt - 1).toNat, F ^ j) := Nat.mul_le_mul_right _ hlen
      _ = ∑ j ∈ Finset.Icc 1 m.ttl.toInt.toNat, F ^ j := by rw [hhops, sum_pow_succ]

theorem cost_relays_le (hkind : m.kind? = some kind) (hfanout : e.settings.fanout ≤ F) :
    ((relays H draw kind m e).map (Send.cost F)).sum ≤ m.load F := by
  by_cases hflood : isFlooded kind = true
  · have hspread : m.isFlooded = true := by
      rw [Message.isFlooded, hkind]
      exact hflood
    have hspent : (spend m).isFlooded = true := by
      rw [Message.isFlooded, Message.kind?, spend_kind]
      exact hspread
    have hhops : (m.ttl.toInt - 1).toNat = (spend m).ttl.toInt.toNat := by
      rw [spend_ttl_toInt]
      omega
    rw [Message.load_of_isFlooded F hspread, hhops]
    exact cost_copies_le hspent (Nat.le_trans (length_relays_le H draw kind m e) hfanout)
      fun send hsend => (mem_relays hsend).2
  · rw [relays, if_neg hflood]
    exact Nat.zero_le _

-- What a node sends on taking in a message costs no more than the message stood
-- for: one answer to a list request, or the relays of a flood.
theorem cost_handle_le (H : Digest) (draw : Draw) (m : Message) (hfanout : e.settings.fanout ≤ F) :
    ((e.handle H draw m).sends.map (Send.cost F)).sum ≤ m.load F := by
  rcases handle_cases H draw m e with ⟨_, outcome, he, _⟩ | ⟨kind, _, hkind, _, he⟩
  · rw [he]
    exact Nat.zero_le _
  · rw [he, List.map_append, List.sum_append]
    rcases dispatch_replies H draw kind m (e.remember m.id).2 with hnone | ⟨rfl, reply, hone, hr⟩
    · rw [hnone, List.map_nil, List.sum_nil, Nat.zero_add]
      refine cost_relays_le hkind ?_
      rw [(dispatch_frame H draw kind m _).1]
      exact hfanout
    · have hload : m.load F = 1 := by simp only [Message.load, hkind]
      have hreply : reply.load F = 0 := by simp only [Message.load, hr]
      have hrelays (e : Engine) : relays H draw .listRequest m e = [] := rfl
      rw [hone, hrelays, hload]
      simp [Send.cost, hreply]

theorem cost_originate_le (H : Digest) (draw : Draw) (hflood : m.isFlooded = true)
    (hfanout : e.settings.fanout ≤ F) :
    (((e.originate H draw m).1.toOption.getD []).map (Send.cost F)).sum ≤
      ∑ j ∈ Finset.Icc 1 m.ttl.toInt.toNat, F ^ j := by
  refine cost_copies_le hflood ?_ fun send hsend => isCopy_of_mem_originate hsend
  cases hgossip : (e.remember m.id).2.gossip H draw m with
  | error error => simp [originate, hgossip, Except.toOption]
  | ok sends =>
      simpa [originate, hgossip, Except.toOption] using Nat.le_trans
        (length_gossip_le hgossip) hfanout

end Engine

namespace Overlay

variable {ι : Type} {H : Digest} {F : Nat}

-- How many messages there may be from now on, those in flight included.
def weight (F : Nat) (flying : Multiset (Flight ι)) : Nat :=
  (flying.map fun f => f.send.cost F).sum

@[simp] theorem weight_cons (f : Flight ι) (rest : Multiset (Flight ι)) :
    weight F (f ::ₘ rest) = f.send.cost F + weight F rest := by
  simp [weight]

@[simp] theorem weight_add (a b : Multiset (Flight ι)) :
    weight F (a + b) = weight F a + weight F b := by
  simp [weight]

theorem weight_next (f : Flight ι) (i : ι) (sends : List Send) :
    weight F (↑(sends.map (f.next i)) : Multiset (Flight ι)) = (sends.map (Send.cost F)).sum := by
  simp [weight, Function.comp_def]

-- The sends among `flights` that go back to message `k`.
def countOf (k : Nat) (flights : List (Flight ι)) : Nat :=
  flights.countP fun f => f.origin = some k

@[simp] theorem countOf_append (k : Nat) (a b : List (Flight ι)) :
    countOf k (a ++ b) = countOf k a + countOf k b := by
  simp [countOf]

-- How many sends may still come of those that go back to message `k`.
def dueTo (F k : Nat) (flying : Multiset (Flight ι)) : Nat :=
  (flying.map fun f => if f.origin = some k then f.send.message.load F else 0).sum

@[simp] theorem dueTo_cons (k : Nat) (f : Flight ι) (rest : Multiset (Flight ι)) :
    dueTo F k (f ::ₘ rest) = (if f.origin = some k then f.send.message.load F else 0) +
      dueTo F k rest := by
  simp [dueTo]

@[simp] theorem dueTo_add (k : Nat) (a b : Multiset (Flight ι)) :
    dueTo F k (a + b) = dueTo F k a + dueTo F k b := by
  simp [dueTo]

theorem dueTo_eq_zero {k : Nat} {flying : Multiset (Flight ι)}
    (h : ∀ f ∈ flying, f.origin ≠ some k) : dueTo F k flying = 0 := by
  refine Multiset.sum_eq_zero fun n hn => ?_
  obtain ⟨f, hf, rfl⟩ := Multiset.mem_map.mp hn
  exact if_neg (h f hf)

theorem countOf_add_dueTo (F k : Nat) (flights : List (Flight ι)) :
    countOf k flights + dueTo F k (↑flights : Multiset (Flight ι)) =
      (flights.map fun f => if f.origin = some k then f.send.cost F else 0).sum := by
  induction flights with
  | nil => rfl
  | cons f rest ih =>
      rw [← Multiset.cons_coe, dueTo_cons, List.map_cons, List.sum_cons, ← ih, countOf,
        List.countP_cons, countOf]
      by_cases hf : f.origin = some k
      · simp only [hf, decide_true, ite_true, Send.cost]
        omega
      · simp only [hf, decide_false, Bool.false_eq_true, ite_false]
        omega

theorem countOf_add_dueTo_le (F k : Nat) (flights : List (Flight ι)) :
    countOf k flights + dueTo F k (↑flights : Multiset (Flight ι)) ≤
      (flights.map fun f => f.send.cost F).sum := by
  rw [countOf_add_dueTo]
  refine List.sum_le_sum fun f _ => ?_
  split
  · exact Nat.le_refl _
  · exact Nat.zero_le _

theorem countOf_add_dueTo_eq_zero {k : Nat} {flights : List (Flight ι)}
    (h : ∀ f ∈ flights, f.origin ≠ some k) :
    countOf k flights + dueTo F k (↑flights : Multiset (Flight ι)) = 0 := by
  rw [countOf_add_dueTo, List.sum_eq_zero_iff]
  intro n hn
  obtain ⟨f, hf, rfl⟩ := List.mem_map.mp hn
  exact if_neg (h f hf)

theorem cost_launched (o : Overlay ι) (i : ι) (result : Except PeerError (List Send)) :
    ((o.launched i result).map fun f => f.send.cost F).sum =
      ((result.toOption.getD []).map (Send.cost F)).sum := by
  simp [launched, Function.comp_def]

variable [DecidableEq ι]

-- Each delivery takes a message out of flight and puts in less than it stood for.
theorem Delivery.weight_lt {o o' : Overlay ι} {event : Event ι} (hd : Delivery H o event o')
    (hfanout : ∀ i, (o.nodes i).settings.fanout ≤ F) : weight F o'.flying < weight F o.flying := by
  cases hd with
  | mk f rest i draw h hflying htarget hhandle =>
      have hcost := Engine.cost_handle_le H draw f.send.message (hfanout i)
      rw [hhandle] at hcost
      simp only [act_flying, weight_add, weight_next, hflying, weight_cons, Send.cost]
      omega

theorem length_deliveries_le {o o' : Overlay ι} {events : List (Event ι)}
    (hfanout : ∀ i, (o.nodes i).settings.fanout ≤ F) (run : Run (Delivery H) o events o') :
    (∀ i, (o'.nodes i).settings.fanout ≤ F) ∧
    weight F o'.flying + events.length ≤ weight F o.flying := by
  induction run with
  | refl => exact ⟨hfanout, Nat.le_refl _⟩
  | step _ hd ih =>
      obtain ⟨hfan, hlen⟩ := ih
      have hlt := hd.weight_lt hfan
      refine ⟨fun i => (hd.sameNodes i).2 ▸ hfan i, ?_⟩
      rw [List.length_append, List.length_singleton]
      omega

theorem Delivery.countOf_add_dueTo_le {o o' : Overlay ι} {event : Event ι}
    (hd : Delivery H o event o') (hfanout : ∀ i, (o.nodes i).settings.fanout ≤ F) (k : Nat) :
    countOf k event.sends + dueTo F k o'.flying ≤ dueTo F k o.flying := by
  cases hd with
  | mk f rest i draw h hflying htarget hhandle =>
      have hcost := Engine.cost_handle_le H draw f.send.message (hfanout i)
      rw [hhandle] at hcost
      have hnew : countOf k (h.sends.map (f.next i)) +
          dueTo F k (↑(h.sends.map (f.next i)) : Multiset (Flight ι)) ≤
          if f.origin = some k then f.send.message.load F else 0 := by
        split
        · have hle := Overlay.countOf_add_dueTo_le F k (h.sends.map (f.next i))
          simp only [List.map_map, Function.comp_def] at hle
          exact Nat.le_trans hle hcost
        · rename_i hother
          refine Nat.le_of_eq (countOf_add_dueTo_eq_zero fun g hg => ?_)
          obtain ⟨send, _, rfl⟩ := List.mem_map.mp hg
          exact hother
      simp only [Event.sends, act_flying, dueTo_add, hflying, dueTo_cons]
      omega

-- No step adds to what may come of a message that was originated before.
theorem Step.countOf_add_dueTo_le {o o' : Overlay ι} {event : Event ι} (hs : Step H o event o')
    (hfanout : ∀ i, (o.nodes i).settings.fanout ≤ F) {k : Nat} (hk : k < o.originated.length) :
    countOf k event.sends + dueTo F k o'.flying ≤ dueTo F k o.flying := by
  cases hs with
  | delivered hd => exact hd.countOf_add_dueTo_le hfanout k
  | made i draw m result e h =>
      have hzero : countOf k (o.launched i result) +
          dueTo F k (↑(o.launched i result) : Multiset (Flight ι)) = 0 := by
        refine countOf_add_dueTo_eq_zero fun f hf => ?_
        obtain ⟨send, _, rfl⟩ := List.mem_map.mp hf
        exact fun h => absurd (Option.some.inj h) (by omega)
      simp only [Event.sends, spread, act_flying, dueTo_add]
      omega
  | refreshed i draw routes asked h =>
      have hzero : countOf k (detached i asked.sends) +
          dueTo F k (↑(detached i asked.sends) : Multiset (Flight ι)) = 0 := by
        refine countOf_add_dueTo_eq_zero fun f hf => ?_
        obtain ⟨send, _, rfl⟩ := List.mem_map.mp hf
        exact nofun
      simp only [Event.sends, act_flying, dueTo_add]
      omega
  | lost f rest hflying =>
      simp only [Event.sends, hflying, dueTo_cons, countOf, List.countP_nil]
      omega
  | meanwhile i e hself hsettings =>
      simp [Event.sends, countOf]

theorem countOf_sends_add_dueTo_le {o o' : Overlay ι} {events : List (Event ι)}
    (hfanout : ∀ i, (o.nodes i).settings.fanout ≤ F) {k : Nat} (hk : k < o.originated.length)
    (run : Run (Step H) o events o') :
    countOf k (events.flatMap Event.sends) + dueTo F k o'.flying ≤ dueTo F k o.flying := by
  induction run with
  | refl => simp [countOf]
  | step run hs ih =>
      have hfan := fun i => (sameNodes_run run i).2 ▸ hfanout i
      have hlog := (originated_grows_run run).length_le
      have hstep := hs.countOf_add_dueTo_le hfan (Nat.lt_of_lt_of_le hk hlog)
      simp only [List.flatMap_append, List.flatMap_singleton, countOf_append]
      omega

-- However the network looks and whatever its caches forget: each delivery lowers
-- the weight of what is in flight, so deliveries come to an end, and a message that
-- spreads is sent `F + F ^ 2 + ... + F ^ ttl` times at most.
theorem floods_die_out (o : Overlay ι) (hfanout : ∀ i, (o.nodes i).settings.fanout ≤ F) :
    (∀ event o', Delivery H o event o' → weight F o'.flying < weight F o.flying) ∧
    (∀ events o', Run (Delivery H) o events o' → events.length ≤ weight F o.flying) ∧
    (∀ states : Nat → Overlay ι, states 0 = o →
      ¬ ∀ n, ∃ event, Delivery H (states n) event (states (n + 1))) ∧
    ∀ i draw m result e, Makes H draw (o.nodes i) m (result, e) → m.isFlooded = true →
      (∀ f ∈ o.flying, f.origin ≠ some o.originated.length) →
      ∀ events o', Run (Step H) (o.spread i m result e) events o' →
        countOf o.originated.length (o.launched i result ++ events.flatMap Event.sends) ≤
          ∑ j ∈ Finset.Icc 1 m.ttl.toInt.toNat, F ^ j := by
  refine ⟨fun event o' hd => hd.weight_lt hfanout, ?_, ?_, ?_⟩
  · intro events o' run
    exact Nat.le_trans (Nat.le_add_left _ _) (length_deliveries_le hfanout run).2
  · intro states hstart hall
    have hrun (n : Nat) : ∃ events, events.length = n ∧ Run (Delivery H) o events (states n) := by
      induction n with
      | zero => exact ⟨[], rfl, hstart ▸ .refl⟩
      | succ n ih =>
          obtain ⟨events, hlen, run⟩ := ih
          obtain ⟨event, hd⟩ := hall n
          exact ⟨events ++ [event], by simp [hlen], run.step hd⟩
    obtain ⟨events, hlen, run⟩ := hrun (weight F o.flying + 1)
    have hle := (length_deliveries_le hfanout run).2
    omega
  · intro i draw m result e hmade hflood hfresh events o' run
    have hstep : Step H o (.sent (o.launched i result)) (o.spread i m result e) :=
      .made i draw m result e hmade
    have hrest := countOf_sends_add_dueTo_le (F := F) (k := o.originated.length)
      (fun j => (hstep.sameNodes j).2 ▸ hfanout j) (by simp [spread]) run
    have hfirst := countOf_add_dueTo_le F o.originated.length (o.launched i result)
    have hcost := Engine.cost_originate_le H draw hflood (hfanout i)
    rw [← hmade.eq.1, ← cost_launched o i] at hcost
    have hnone : dueTo F o.originated.length o.flying = 0 := dueTo_eq_zero hfresh
    simp only [spread, act_flying, dueTo_add] at hrest
    rw [countOf_append]
    omega

-- Two peers each and two hops allow six sends; a pair makes two.
theorem floods_die_out_for_pair :
    (∀ i, (pair i).settings.fanout ≤ 2) ∧ weight 2 relayed.flying < weight 2 told.flying ∧
      countOf 0 [outward, homeward] ≤ ∑ j ∈ Finset.Icc 1 2, 2 ^ j := by
  let H : Digest := .ofFunction id
  have hfanout (i : Bool) : (pair i).settings.fanout ≤ 2 := Nat.le_refl _
  have htold (i : Bool) : (told.nodes i).settings.fanout ≤ 2 :=
    ((pair_made H).sameNodes i).2 ▸ hfanout i
  obtain ⟨hmeasure, _⟩ := floods_die_out (H := H) told htold
  obtain ⟨_, _, _, htotal⟩ := floods_die_out (H := H) (quiet pair) hfanout
  have hnone : ∀ f ∈ (quiet pair).flying, f.origin ≠ some 0 :=
    fun f hf => absurd hf (Multiset.notMem_zero f)
  have hcount := htotal false (.inOrder 0) rumor _ _ (pair_makes H) rfl hnone _ _
    (Run.refl.step (.delivered (pair_delivery H)))
  exact ⟨hfanout, hmeasure _ _ (pair_delivery H), hcount⟩

end Overlay

end Rumor
