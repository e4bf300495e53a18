import Rumor.Proofs.Hub.Alone
import Rumor.Proofs.Hub.Entry

-- The way of a note from the engine's queue to the clients.
namespace Rumor.Hub

open Api (Bridge Connection)

section Client

variable {c c' : Client} {b b' : Bridge} {deed : Deed} {deeds : Deeds} {name other : String}
  {capacity : Nat} {box : Option (Queue Note)}

theorem Reading.turn_boxes (reading : Reading) (fresh : MessageId) (connection : Connection)
    (b : Bridge) :
    (reading.turn fresh connection b).bridge.noteQueue = b.noteQueue ∧
      (reading.turn fresh connection b).bridge.boxes =
        if reading.asks?.isSome then b.boxes.ensure connection.name b.noteQueue else b.boxes := by
  cases hasks : reading.asks? with
  | some datatype => simp [Reading.turn_of_asks hasks]
  | none =>
      obtain ⟨_, announces, hbridge⟩ := Reading.turn_of_asks_none hasks fresh connection b
      simp [hbridge]

-- A connection takes from its own queue only.
theorem Client.Step.boxes_other (hs : c.Step b deed c' b') (hother : other ≠ c.connection.name) :
    b'.boxes.get? other = b.boxes.get? other := by
  cases hs with
  | @read reading rest turn fresh hopen hidle hnext hturn =>
      rw [← hturn, (reading.turn_boxes fresh c.connection b).2]
      split
      · rw [Mailboxes.get?_ensure, if_neg hother]
      · rfl
  | pick hopen hidle htake => rw [Mailboxes.get?_set, if_neg hother]
  | drop hleft =>
      dsimp only
      split
      · rw [Mailboxes.get?_erase, if_neg hother]
      · rfl
  | _ => rfl

-- What is written was at hand, and it was there first.
theorem Client.Step.noted_sublist (hs : c.Step b deed c' b') :
    (Deeds.noted [deed] ++ (c'.writing.toList ++ b'.boxes.waiting c.connection.name)).Sublist
      (c.writing.toList ++ b.boxes.waiting c.connection.name) := by
  cases hs with
  | send bytes hmore =>
      obtain ⟨_, hgets⟩ := c.gets_eq bytes
      rw [hgets]
      exact List.Sublist.refl _
  | @read reading rest turn fresh hopen hidle hnext hturn =>
      have hsame : turn.bridge.boxes.waiting c.connection.name =
          b.boxes.waiting c.connection.name := by
        rw [← hturn, (reading.turn_boxes fresh c.connection b).2]
        split
        · exact Mailboxes.waiting_ensure _
        · rfl
      rw [hsame]
      exact List.Sublist.refl _
  | @pick note q hopen hidle htake =>
      rw [Mailboxes.waiting_of_take? htake, hidle, Mailboxes.waiting_set]
      exact List.Sublist.refl _
  | write hwriting hfits =>
      rw [hwriting]
      exact List.Sublist.refl _
  | lose | stop => exact List.sublist_append_right _ _
  | drop hleft =>
      refine (List.append_sublist_append_left c.writing.toList).mpr ?_
      dsimp only
      split
      · rw [Mailboxes.waiting_erase]
        exact List.nil_sublist _
      · exact List.Sublist.refl _
  | _ => exact List.Sublist.refl _

theorem Client.Step.noteQueue_eq (hs : c.Step b deed c' b') : b'.noteQueue = b.noteQueue := by
  cases hs with
  | @read reading rest turn fresh hopen hidle hnext hturn =>
      rw [← hturn, (reading.turn_boxes fresh c.connection b).1]
  | _ => rfl

-- A connection has a queue from its first request on until it drops it.
structure Boxed (capacity : Nat) (deeds : Deeds) (box : Option (Queue Note)) : Prop where
  there : box.isSome = true ↔ deeds.asked ≠ [] ∧ .dropped ∉ deeds
  shape : ∀ q, box = some q → q.capacity = capacity ∧ q.isOpen = true

theorem Boxed.offer (hb : Boxed capacity deeds box) (note : Note) :
    Boxed capacity deeds (box.map fun q => (q.offer note).2) where
  there := by rw [Option.isSome_map, hb.there]
  shape q' hq' := by
    obtain ⟨q, hq, rfl⟩ := Option.map_eq_some_iff.mp hq'
    rw [Queue.offer_snd]
    split <;> exact hb.shape q hq

theorem Boxed.quiet (hb : Boxed capacity deeds box) (hasks : deed.asks? = none)
    (hdeed : deed ≠ .dropped) : Boxed capacity (deeds ++ [deed]) box where
  there := by
    rw [hb.there, Deeds.asked_append, Deeds.asked_singleton, hasks, Option.toList_none,
      List.append_nil]
    simp [hdeed.symm]
  shape := hb.shape

theorem Boxed.step (hb : Boxed b.noteQueue deeds (b.boxes.get? c.connection.name))
    (htold : Client.Told name deeds c) (hs : c.Step b deed c' b') :
    Boxed b.noteQueue (deeds ++ [deed]) (b'.boxes.get? c.connection.name) := by
  cases hs with
  | @read reading rest turn fresh hopen hidle hnext hturn =>
      have hboxes := (reading.turn_boxes fresh c.connection b).2
      rw [hturn] at hboxes
      rw [hboxes]
      cases hasks : reading.asks? with
      | some datatype =>
          have hdeed : (Deed.read reading b turn).asks? = some datatype := hasks
          rw [Option.isSome_some, if_pos rfl, Mailboxes.get?_ensure, if_pos rfl]
          refine ⟨by simp [hdeed, htold.not_dropped (htold.opened hopen)], fun q hq => ?_⟩
          obtain rfl := Option.some.inj hq
          cases hbox : b.boxes.get? c.connection.name with
          | none => exact ⟨rfl, rfl⟩
          | some q => exact hb.shape q hbox
      | none => exact hb.quiet hasks (by simp)
  | @pick note q hopen hidle htake =>
      obtain ⟨q', hq', htaken⟩ := Option.bind_eq_some_iff.mp htake
      rw [Mailboxes.get?_set, if_pos rfl]
      refine Boxed.quiet ⟨?_, fun q₁ hq₁ => ?_⟩ rfl (by simp)
      · rw [← hb.there, hq', Option.isSome_some, Option.isSome_some]
      · obtain rfl := Option.some.inj hq₁
        rw [(Queue.items_of_take? htaken).1]
        exact hb.shape q' hq'
  | drop hleft =>
      have hnone :
          (if c.connection.subscribed then b.boxes.erase c.connection.name else b.boxes).get?
            c.connection.name = none := by
        split
        · rw [Mailboxes.get?_erase, if_pos rfl]
        · rename_i hsubscribed
          rw [htold.subscribed, ← hb.there] at hsubscribed
          exact Option.not_isSome_iff_eq_none.mp hsubscribed
      rw [hnone]
      exact ⟨by simp, fun q hq => by cases hq⟩
  | _ => exact hb.quiet rfl (by simp)

end Client

section Run

variable {H : Digest} {h h' hub : Hub} {event : Event} {events : Events} {name self : String}
  {note : Note} {settings : Settings} {announceQueue dispatchQueue noteQueue : Nat}

-- What is offered to a connection, and what is next to be: notes that were looked up and
-- that it asked for, in their order and each of them once.
structure Offering (name : String) (events : Events) (h : Hub) : Prop where
  looked : (events.offered name ++ h.dispatcher.due name).Sublist events.looked
  asked : ∀ note ∈ events.offered name ++ h.dispatcher.due name,
    note.datatype ∈ (events.deeds name).asked

theorem Offering.still (ho : Offering name events h)
    (hsame : Events.offered [event] name ++ h'.dispatcher.due name = h.dispatcher.due name) :
    Offering name (events ++ [event]) h' where
  looked := by
    rw [Events.offered_append, List.append_assoc, hsame, Events.looked_append]
    exact ho.looked.trans (List.sublist_append_left _ _)
  asked note hmem := by
    rw [Events.offered_append, List.append_assoc, hsame] at hmem
    rw [Events.deeds_append, Deeds.asked_append]
    exact List.mem_append_left _ (ho.asked note hmem)

theorem Offering.look {names : List String} (ho : Offering name events h) (hknown : Known events h)
    (hholding : h.dispatcher = .holding note)
    (hnames : names.Perm (h.bridge.interest.subscribers note.datatype)) :
    Offering name (events ++ [.worked (.looked note names)])
      { h with dispatcher := .sending note names } := by
  obtain ⟨hlooked, hasked⟩ := ho
  simp only [hholding, Dispatcher.due, List.append_nil] at hlooked hasked
  have hnodup : names.Nodup := hnames.nodup_iff.mpr (hknown.tidy.nodup_subscribers _)
  constructor
  · have honce : (List.replicate (names.count name) note).Sublist [note] :=
      List.replicate_sublist_replicate note |>.mpr (List.nodup_iff_count_le_one.mp hnodup name)
    simpa [Work.offers?, Work.looked?, Dispatcher.due] using hlooked.append honce
  · intro note' hmem
    simp only [Events.offered_append, Events.offered_worked, Work.offers?, Option.toList_none,
      List.append_nil, Dispatcher.due, List.mem_append, List.mem_replicate] at hmem
    rw [Events.deeds_append, Deeds.asked_append]
    refine List.mem_append_left _ ?_
    rcases hmem with hold | ⟨hnamed, rfl⟩
    · exact hasked note' hold
    · have hmem := List.count_pos_iff.mp (Nat.pos_of_ne_zero hnamed)
      have hholds := hknown.tidy.mem_subscribers.mp (hnames.mem_iff.mp hmem)
      exact ((hknown.holds _ _).mp hholds).1

theorem offering_of_run
    (run : Run (Step H) (start self settings announceQueue dispatchQueue noteQueue) events h)
    (name : String) : Offering name events h := by
  induction run with
  | refl =>
      exact ⟨List.Sublist.refl _, by simp [Events.offered, Events.works, start, Dispatcher.due]⟩
  | step hrun hs ih =>
      cases hs with
      | look hholding hnames => exact ih.look (known_of_run hrun) hholding hnames
      | @offer note other names hsending =>
          refine ih.still ?_
          rw [hsending]
          by_cases hsame : other = name <;>
            simp [hsame, Work.offers?, Dispatcher.due, List.replicate_succ]
      | take hidle | forward hidle | halt hidle =>
          exact ih.still (by simp [hidle, Work.offers?, Dispatcher.due])
      | _ => exact ih.still rfl

-- The note that a client is being written, and those that wait for it.
def waiting (h : Hub) (name : String) : List Note :=
  ((h.clients name).bind Client.writing).toList ++ h.bridge.boxes.waiting name

theorem waiting_of_client {c : Client} (hc : h.clients name = some c) :
    h.waiting name = c.writing.toList ++ h.bridge.boxes.waiting name := by
  rw [waiting, hc, Option.bind_some]

-- Notes reach a client in the order in which they were offered to it.
theorem noted_of_run
    (run : Run (Step H) (start self settings announceQueue dispatchQueue noteQueue) events h)
    (name : String) :
    ((events.deeds name).noted ++ h.waiting name).Sublist (events.offered name) := by
  induction run with
  | refl => exact List.Sublist.refl _
  | @step early hub hub' event hrun hs ih =>
      rw [Events.deeds_append, Deeds.noted_append, Events.offered_append]
      cases hs with
      | @did other c c' b deed hclient hstep =>
          have hname := (told_of_run hrun hclient).name
          by_cases hsame : other = name
          · subst hsame
            have hstep' := hstep.noted_sublist
            rw [hname, ← waiting_of_client hclient] at hstep'
            have hlater : ({ hub with bridge := b }.put other c').waiting other =
                c'.writing.toList ++ b.boxes.waiting other := waiting_of_client (by simp)
            rw [hlater]
            simpa using ((List.append_sublist_append_left _).mpr hstep').trans ih
          · have hbox := Mailboxes.waiting_congr (hstep.boxes_other (hname.symm ▸ Ne.symm hsame))
            have hlater : ({ hub with bridge := b }.put other c').waiting name =
                hub.waiting name := by
              simp [waiting, Ne.symm hsame, hbox]
            simpa [hlater, hsame] using ih
      | accept other hnew =>
          have hlater : (hub.put other (.accepted other)).waiting name = hub.waiting name := by
            by_cases hsame : name = other
            · simp [waiting, hsame, hnew, Client.accepted]
            · simp [waiting, hsame]
          simpa [hlater] using ih
      | @offer note other names hsending =>
          have hbox : ((hub.bridge.boxes.offer other note).2.waiting name).Sublist
              (hub.bridge.boxes.waiting name ++ if other = name then [note] else []) :=
            Mailboxes.waiting_offer note
          have hmore := (List.append_sublist_append_left ((Events.deeds early name).noted ++
            ((hub.clients name).bind Client.writing).toList)).mpr hbox
          have hlater := ih.append (List.Sublist.refl (if other = name then [note] else []))
          simp only [waiting, List.append_assoc] at hmore hlater
          by_cases hsame : other = name <;>
            simpa [waiting, hsame, Work.offers?] using hmore.trans hlater
      | _ => simpa [waiting, Work.offers?] using ih

theorem boxed_of_run
    (run : Run (Step H) (start self settings announceQueue dispatchQueue noteQueue) events h) :
    h.bridge.noteQueue = max noteQueue 1 ∧
      ∀ name, Boxed (max noteQueue 1) (events.deeds name) (h.bridge.boxes.get? name) := by
  induction run with
  | refl =>
      have hnone : Boxed (max noteQueue 1) [] none :=
        ⟨by simp [Deeds.asked], fun q hq => by cases hq⟩
      exact ⟨rfl, fun _ => hnone⟩
  | step hrun hs ih =>
      obtain ⟨hcapacity, hboxed⟩ := ih
      cases hs with
      | @did other c c' b deed hclient hstep =>
          have htold := told_of_run hrun hclient
          refine ⟨hstep.noteQueue_eq.trans hcapacity, fun name => ?_⟩
          rw [Events.deeds_append]
          by_cases hsame : other = name
          · subst hsame
            have hlater := Boxed.step (hcapacity ▸ htold.name.symm ▸ hboxed other) htold hstep
            simpa [hcapacity, htold.name] using hlater
          · have hbox := hstep.boxes_other (htold.name.symm ▸ Ne.symm hsame)
            simpa [hsame, hbox] using hboxed name
      | @offer note other names hsending =>
          refine ⟨hcapacity, fun name => ?_⟩
          rw [Events.deeds_append, Events.deeds_worked, List.append_nil, Mailboxes.get?_offer]
          split
          · rename_i hsame
            subst hsame
            exact (hboxed name).offer note
          · exact hboxed name
      | _ => exact ⟨hcapacity, fun name => by simpa using hboxed name⟩

-- The notes that enter the engine's queue are of messages that it processed, at most one
-- of each call, and they are looked up in the order in which they entered.
structure Sourced (events : Events) (h : Hub) : Prop where
  once : (events.entries.map (·.1)).Nodup
  message : ∀ k note, (k, note) ∈ events.entries →
    ∃ m : Message, m.kind? = some (.data note.datatype) ∧ note.id = m.id ∧
      note.payload = m.payload ∧ (k, .remember .peer m.id true) ∈ events.trace ∧
      Handed h.calls events.trace k m
  queue : (events.looked ++ (h.dispatcher.held ++ h.engine.notes.items)).Sublist
    (events.entries.map (·.2))

theorem sourced_of_run
    (run : Run (Step H) (start self settings announceQueue dispatchQueue noteQueue) events h) :
    Sourced events h := by
  have hentered := entered_of_run run
  obtain ⟨labels, hpool, htrace⟩ := pool_of_run run
  have haccounts := Calls.Pool.accounts_run hpool
  rw [htrace] at haccounts
  refine ⟨hentered.once, fun k note hmem => ?_, queued_of_run run⟩
  obtain ⟨m, hkind, hnote, hhanded⟩ := hentered.made k note hmem
  exact ⟨m, hkind, congrArg (·.id) hnote, congrArg (·.payload) hnote,
    hhanded.remembered haccounts, hhanded⟩

-- A client is written notes that entered the engine's queue, in their order, each at
-- most once and of a datatype that it had asked for.
structure Received (name : String) (events : Events) : Prop where
  taken : ∃ taken : List (Nat × Note), taken.Sublist events.entries ∧
    (events.deeds name).noted = taken.map (·.2)
  frame : ∀ (before after : Events) note bytes,
    events = before ++ .did name (.wrote note bytes) :: after →
    note.datatype ∈ (before.deeds name).asked ∧
      (Frame.notification note.id.toUInt16 note.datatype note.payload).encode = .ok bytes

theorem received_of_run
    (run : Run (Step H) (start self settings announceQueue dispatchQueue noteQueue) events h)
    (name : String) : Received name events := by
  constructor
  · have hnoted := (List.sublist_append_left _ _).trans (noted_of_run run name)
    have hlooked := (List.sublist_append_left _ _).trans (offering_of_run run name).looked
    have hentered := (List.sublist_append_left _ _).trans (queued_of_run run)
    exact List.sublist_map_iff.mp ((hnoted.trans hlooked).trans hentered)
  · rintro before after note bytes rfl
    obtain ⟨hub, hbefore, hrest⟩ := run.split
    obtain ⟨hub', hstep, _⟩ := hrest.first
    cases hstep with
    | did hclient hwrote =>
        cases hwrote with
        | write hwriting hfits =>
            refine ⟨(offering_of_run hbefore name).asked note (List.mem_append_left _ ?_), hfits⟩
            refine (noted_of_run hbefore name).subset (List.mem_append_right _ ?_)
            rw [waiting_of_client hclient, hwriting]
            exact List.mem_cons_self

-- A client that asked for nothing is written no notes.
theorem written_of_asked_nil
    (run : Run (Step H) (start self settings announceQueue dispatchQueue noteQueue) events h)
    (hasked : (events.deeds name).asked = []) : (events.deeds name).written = [] := by
  apply List.filterMap_eq_nil_iff.mpr
  intro deed hdeed
  cases deed with
  | wrote note bytes =>
      obtain ⟨before, after, rfl⟩ := List.append_of_mem (Events.mem_deeds.mp hdeed)
      have hbefore := ((received_of_run run name).frame before after note bytes rfl).1
      rw [Events.deeds_append, Deeds.asked_append, List.append_eq_nil_iff] at hasked
      rw [hasked.1] at hbefore
      cases hbefore
  | _ => rfl

theorem offered_of_dispatcher {names : List String} {works : List Work} {dispatcher : Dispatcher}
    (run : Run Dispatcher.Step (.sending note names) works dispatcher)
    (hstill : ∀ note', .forwarded note' ∉ works) :
    ∃ sent rest, names = sent ++ rest ∧ dispatcher = .sending note rest ∧
      ∀ name, works.filterMap (Work.offers? name) = List.replicate (sent.count name) note := by
  induction run with
  | refl => exact ⟨[], names, rfl, rfl, fun _ => rfl⟩
  | step _ hs ih =>
      obtain ⟨sent, rest, hnames, rfl, hoffers⟩ :=
        ih fun note' hmem => hstill note' (List.mem_append_left _ hmem)
      cases hs with
      | offer _ other rest met =>
          refine ⟨sent ++ [other], rest, by simp [hnames], rfl, fun name => ?_⟩
          rw [List.filterMap_append, hoffers, List.count_append, List.replicate_add]
          by_cases hsame : other = name <;> simp [Work.offers?, hsame]
      | forward => exact absurd (List.mem_append_right _ List.mem_cons_self) (hstill note)

-- Who has asked for the datatype and has not left is offered the note once, whatever the
-- queues of others are like, and nobody else is offered it.
structure Forwarded (before between : Events) (note : Note) : Prop where
  subscribers : ∀ name, note.datatype ∈ (before.deeds name).asked → .left ∉ before.deeds name →
    between.offered name = [note]
  others : ∀ name, note.datatype ∉ (before.deeds name).asked ∨ .left ∈ before.deeds name →
    between.offered name = []

theorem forwarded_of_run {before between after : Events} {names : List String} {note' : Note}
    (run : Run (Step H) (start self settings announceQueue dispatchQueue noteQueue)
      (before ++ .worked (.looked note names) :: (between ++ .worked (.forwarded note') :: after)) h)
    (hstill : ∀ other, .worked (.forwarded other) ∉ between) :
    note' = note ∧ Forwarded before between note := by
  obtain ⟨hub, hbefore, hrest⟩ := run.split
  obtain ⟨_, hlook, hrest⟩ := hrest.first
  obtain ⟨_, hbetween, hrest⟩ := hrest.split
  obtain ⟨_, hforward, _⟩ := hrest.first
  have hknown := known_of_run hbefore
  cases hlook with
  | look hholding hnames =>
      have hsilent : ∀ other, .forwarded other ∉ between.works := by
        intro other hmem
        obtain ⟨event, hevent, hwork⟩ := List.mem_filterMap.mp hmem
        cases event with
        | worked work =>
            obtain rfl := Option.some.inj hwork
            exact hstill other hevent
        | _ => cases hwork
      obtain ⟨sent, rest, hsplit, hdispatcher, hoffers⟩ :=
        offered_of_dispatcher (dispatcher_of_run hbetween) hsilent
      cases hforward with
      | forward hsending =>
          obtain ⟨rfl, rfl⟩ := Dispatcher.sending.inj (hdispatcher.symm.trans hsending)
          rw [List.append_nil] at hsplit
          subst hsplit
          have hnamed (name : String) : name ∈ names ↔
              note.datatype ∈ (before.deeds name).asked ∧ .left ∉ before.deeds name :=
            hnames.mem_iff.trans (hknown.tidy.mem_subscribers.trans (hknown.holds _ _))
          have hnodup : names.Nodup := hnames.nodup_iff.mpr (hknown.tidy.nodup_subscribers _)
          refine ⟨rfl, fun name hasked hleft => ?_, fun name hnot => ?_⟩
          · rw [Events.offered, hoffers,
              List.count_eq_one_of_mem hnodup ((hnamed name).mpr ⟨hasked, hleft⟩)]
            rfl
          · have habsent : name ∉ names := fun hmem => by
              obtain ⟨hasked, hleft⟩ := (hnamed name).mp hmem
              rcases hnot with hnot | hnot
              · exact hnot hasked
              · exact hleft hnot
            rw [Events.offered, hoffers, List.count_eq_zero_of_not_mem habsent]
            rfl

-- An offered note comes last in the queue, unless that is full or dropped.
structure Offer (capacity : Nat) (deeds : Deeds) (note : Note) (met made : Option (Queue Note)) :
    Prop where
  dropped : .dropped ∈ deeds → met = none ∧ made = none
  queued : .dropped ∉ deeds → ∃ items, met = some ⟨capacity, items, true⟩ ∧
    made = some ⟨capacity, if items.length < capacity then items ++ [note] else items, true⟩

theorem Boxed.offered {capacity : Nat} {deeds : Deeds} {box : Option (Queue Note)}
    (hb : Boxed capacity deeds box) (hasked : note.datatype ∈ deeds.asked) :
    Offer capacity deeds note box (box.map fun q => (q.offer note).2) where
  dropped hdropped := by
    have hnone : box = none :=
      Option.not_isSome_iff_eq_none.mp fun hsome => (hb.there.mp hsome).2 hdropped
    exact ⟨hnone, by rw [hnone, Option.map_none]⟩
  queued hkept := by
    obtain ⟨⟨capacity', items, isOpen⟩, hq⟩ :=
      Option.isSome_iff_exists.mp (hb.there.mpr ⟨List.ne_nil_of_mem hasked, hkept⟩)
    obtain ⟨rfl, rfl⟩ := hb.shape _ hq
    refine ⟨items, hq, ?_⟩
    rw [hq, Option.map_some, Queue.offer_snd]
    by_cases hroom : items.length < capacity' <;> simp [Queue.hasRoom, hroom]

theorem offer_of_run {before after : Events} {met made : Option (Queue Note)}
    (run : Run (Step H) (start self settings announceQueue dispatchQueue noteQueue)
      (before ++ .worked (.offered name note met made) :: after) h) :
    ∃ hub hub',
      Run (Step H) (start self settings announceQueue dispatchQueue noteQueue) before hub ∧
      Run (Step H) hub' after h ∧ hub.bridge.boxes.get? name = met ∧
      hub'.bridge.boxes.get? name = made ∧
      (∀ other, other ≠ name → hub'.bridge.boxes.get? other = hub.bridge.boxes.get? other) ∧
      Offer (max noteQueue 1) (before.deeds name) note met made := by
  obtain ⟨hub, hbefore, hrest⟩ := run.split
  obtain ⟨hub', hstep, hafter⟩ := hrest.first
  refine ⟨hub, hub', hbefore, hafter, ?_⟩
  cases hstep with
  | offer hsending =>
      have hdue : note ∈ hub.dispatcher.due name := by simp [hsending, Dispatcher.due]
      have hasked := (offering_of_run hbefore name).asked note (List.mem_append_right _ hdue)
      refine ⟨rfl, rfl, fun other hother => by rw [Mailboxes.get?_offer, if_neg hother], ?_⟩
      rw [Mailboxes.get?_offer, if_pos rfl]
      exact ((boxed_of_run hbefore).2 name).offered hasked

end Run

-- However calls, connections and the task that forwards notes come in between each
-- other, a client is written what was processed, in order and without repetition, of the
-- datatypes that it asked for. A note that is looked up is offered to all who asked for
-- its datatype, and an offer fails by the state of that one queue only.
theorem notes_reach_subscribers {H : Digest} {self : String} {settings : Settings}
    {announceQueue dispatchQueue noteQueue : Nat} {events : Events} {h : Hub}
    (run : Run (Step H) (start self settings announceQueue dispatchQueue noteQueue) events h) :
    Sourced events h ∧ (∀ name, Received name events) ∧
    (∀ (before between after : Events) note note' names,
      events = before ++ .worked (.looked note names) ::
        (between ++ .worked (.forwarded note') :: after) →
      (∀ other, .worked (.forwarded other) ∉ between) →
      note' = note ∧ Forwarded before between note) ∧
    (∀ (before after : Events) name note met made,
      events = before ++ .worked (.offered name note met made) :: after →
      ∃ hub hub',
        Run (Step H) (start self settings announceQueue dispatchQueue noteQueue) before hub ∧
        Run (Step H) hub' after h ∧ hub.bridge.boxes.get? name = met ∧
        hub'.bridge.boxes.get? name = made ∧
        (∀ other, other ≠ name → hub'.bridge.boxes.get? other = hub.bridge.boxes.get? other) ∧
        Offer (max noteQueue 1) (before.deeds name) note met made) ∧
    ∀ note names, h.dispatcher = .sending note names →
      ∃ (works : List Work) (h' : Hub), Run (Step H) h (works.map .worked) h' ∧
        .forwarded note ∈ works := by
  refine ⟨sourced_of_run run, received_of_run run, ?_, ?_, ?_⟩
  · rintro before between after note note' names rfl hstill
    exact forwarded_of_run run hstill
  · rintro before after name note met made rfl
    exact offer_of_run run
  · intro note names hsending
    obtain ⟨works, hrun, hforwarded⟩ := sending_alone (H := H) hsending
    exact ⟨works, _, hrun, hforwarded⟩

-- Two clients ask for a datatype, and one of them goes while data of it is forwarded.
def request : Bytes :=
  [0, 8, 1, 245, 0, 0, 0, 7]

def subscriber (name : String) : Client :=
  ⟨⟨name, [], true, true⟩, false, none, false⟩

def served (b : Bridge) (name : String) : Bridge :=
  { b with interest := b.interest.subscribe name 7 name, boxes := b.boxes.ensure name b.noteQueue }

def requested (b : Bridge) (name : String) : Deeds :=
  [.sent request, .read (.frame (.notify 0 7)) b ⟨.go, ⟨name, request, true, true⟩, served b name⟩]

theorem run_requested {H : Digest} {h : Hub} {name : String} (hnew : h.clients name = none) :
    Run (Step H) h (.quiet :: (requested h.bridge name).map (.did name))
      ({ h with bridge := served h.bridge name }.put name (subscriber name)) := by
  let c := (Client.accepted name).gets request
  let accepted : Hub := h.put name (.accepted name)
  have hnotify : (Frame.notify 0 7).encode = .ok request := rfl
  have hnext : c.next? = some (.frame (.notify 0 7), []) :=
    next?_of_frame hnotify (List.append_nil request).symm
  have hsend : Client.Acts (.accepted name, h.bridge) (.sent request) (c, h.bridge) :=
    .send request rfl
  have hread : Client.Acts (c, h.bridge) _ (subscriber name, served h.bridge name) :=
    .read 0 rfl rfl hnext rfl
  have haccept : Step H h .quiet accepted := .accept name hnew
  have hclient : accepted.clients name = some (.accepted name) := by simp [accepted]
  have hdid := run_did (H := H) (h := accepted) ((Run.single hsend).step hread) hclient
  rw [← put_put h name (.accepted name) (subscriber name) h.bridge (served h.bridge name)]
  exact (Run.single haccept).append hdid

theorem notes_reach_one_of_two : ∃ (events : Events) (h : Hub),
    Run (Step (.ofFunction id)) (start "a" {} 1 1 1) events h ∧ Sourced events h ∧
      events.entries = [(0, ⟨1, 7, [5]⟩)] ∧ Received "c" events ∧
      (events.deeds "c").noted = [⟨1, 7, [5]⟩] ∧
      Received "d" events ∧ (events.deeds "d").noted = [] ∧ ∃ before between after : Events,
        events = before ++ .worked (.looked ⟨1, 7, [5]⟩ ["c", "d"]) ::
          (between ++ .worked (.forwarded ⟨1, 7, [5]⟩) :: after) ∧
        Forwarded before between ⟨1, 7, [5]⟩ ∧ between.offered "d" = [⟨1, 7, [5]⟩] := by
  let H : Digest := .ofFunction id
  let note : Note := ⟨1, 7, [5]⟩
  let h₀ : Hub := start "a" {} 1 1 1
  let h₁ : Hub := { h₀ with bridge := served h₀.bridge "c" }.put "c" (subscriber "c")
  let h₂ : Hub := { h₁ with bridge := served h₁.bridge "d" }.put "d" (subscriber "d")
  let h₃ : Hub := { h₂ with
    engine := { (h₂.shared.remember 1).2 with notes := (h₂.engine.notes.offer note).2 }
    calls := [⟨.inOrder 0, .closing (.data 7) (.data 1 "b" 7 [5] 3)⟩] }
  let h₄ : Hub :=
    { h₃ with engine := { h₃.engine with notes := .empty 1 }, dispatcher := .holding note }
  let h₅ : Hub := { h₄ with dispatcher := .sending note ["c", "d"] }
  have hfirst : Run (Step H) h₀ _ h₁ := run_requested rfl
  have hsecond : Run (Step H) h₁ _ h₂ := run_requested (by simp [h₁, h₀, start])
  have hnew : (h₂.engine.remember 1).1 = true := Engine.remember_fst_of_notMem List.not_mem_nil
  have hentered : Run (Step H) h₂ _ h₃ :=
    enter_alone (m := .data 1 "b" 7 [5] 3) (.inOrder 0) rfl rfl hnew rfl rfl
  have htaken : Step H h₃ (.worked (.took note)) h₄ := .take rfl rfl
  have hbefore := ((hfirst.append hsecond).append hentered).step htaken
  have hlooked : Step H h₄ (.worked (.looked note ["c", "d"])) h₅ := .look rfl (List.Perm.refl _)
  -- One of the two goes before the note is offered.
  have hstopped :
      Client.Acts (subscriber "d", h₅.bridge) .stopped ((subscriber "d").closed, h₅.bridge) :=
    .stop rfl rfl
  obtain ⟨c', hclose, _⟩ := close_acts (c := (subscriber "d").closed) (b := h₅.bridge) rfl rfl
  let h₆ : Hub :=
    { h₅ with bridge := ((subscriber "d").closed.connection.close h₅.bridge).2 }.put "d" c'
  let h₇ : Hub := { h₆ with
    bridge := { h₆.bridge with boxes := (h₆.bridge.boxes.offer "c" note).2 }
    dispatcher := .sending note ["d"] }
  let h₈ : Hub := { h₇ with
    bridge := { h₇.bridge with boxes := (h₇.bridge.boxes.offer "d" note).2 }
    dispatcher := .sending note [] }
  let h₉ : Hub := { h₈ with dispatcher := .idle }
  have hgone : Run (Step H) h₅ _ h₆ :=
    run_did (h := h₅) ((Run.single hstopped).append hclose) (by simp [h₅, h₄, h₃, h₂])
  have hoffered : Step H h₆ _ h₇ := .offer rfl
  have hlost : Step H h₇ _ h₈ := .offer rfl
  have hbetween := (hgone.step hoffered).step hlost
  have hforwarded : Step H h₈ (.worked (.forwarded note)) h₉ := .forward rfl
  let rest : Bridge := { h₉.bridge with boxes := h₉.bridge.boxes.set "c" (.empty 1) }
  have hpicked :
      Client.Acts (subscriber "c", h₉.bridge) (.picked note)
        ({ subscriber "c" with writing := some note }, rest) :=
    .pick rfl rfl rfl
  have hfits : (Api.noteFrame note).encode = .ok [0, 9, 1, 246, 0, 1, 0, 7, 5] := by decide
  have hwrote :
      Client.Acts ({ subscriber "c" with writing := some note }, rest)
        (.wrote note [0, 9, 1, 246, 0, 1, 0, 7, 5]) (subscriber "c", rest) :=
    .write rfl hfits
  have hclient : h₉.clients "c" = some (subscriber "c") := by
    simp [h₉, h₈, h₇, h₆, h₅, h₄, h₃, h₂, h₁]
  have hafter := run_did (H := H) (h := h₉) ((Run.single hpicked).step hwrote) hclient
  have hrun := hbefore.append ((Run.single hlooked).append
    (hbetween.append ((Run.single hforwarded).append hafter)))
  obtain ⟨hsourced, hreceived, hall, _⟩ := notes_reach_subscribers hrun
  obtain ⟨_, hoffers⟩ := hall _ _ _ note note ["c", "d"] rfl (by simp)
  exact ⟨_, _, hrun, hsourced, rfl, hreceived "c", rfl, hreceived "d", rfl, _, _, _, rfl,
    hoffers, rfl⟩

end Rumor.Hub
