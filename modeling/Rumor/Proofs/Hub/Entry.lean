import Rumor.Proofs.Hub

-- The notes that enter the engine's queue, and the messages that they are made of.
namespace Rumor.Hub

section Turn

variable {H : Digest} {draw : Draw} {e : Engine} {stage : Calls.Stage} {kind : Kind} {m : Message}
  {datatype : UInt16}

-- What a stage tells of the message of its call.
def Genuine : Calls.Stage → Prop
  | .taken kind m => m.kind? = some kind
  | .noting note kind m =>
      m.kind? = some kind ∧ ∃ datatype, kind = .data datatype ∧ note = ⟨m.id, datatype, m.payload⟩
  | _ => True

-- Only a call that has a note to hand over touches the queue.
theorem turns_of_quiet {turn : Calls.Turn} (h : stage.Turns H draw e turn)
    (hquiet : ∀ note kind m, stage ≠ .noting note kind m) :
    turn.engine.notes = e.notes ∧ (Genuine stage → Genuine turn.stage) := by
  cases h with
  | notes note kind m => exact absurd rfl (hquiet note kind m)
  | takes _ hkind => exact ⟨rfl, fun _ => hkind⟩
  | dispatches hdispatch =>
      cases hdispatch with
      | notes => exact ⟨rfl, fun hkind => ⟨hkind, _, rfl, rfl⟩⟩
      | _ => exact ⟨rfl, fun _ => trivial⟩
  | _ => exact ⟨rfl, fun _ => trivial⟩

theorem noting_or_quiet (stage : Calls.Stage) :
    (∃ note kind m, stage = .noting note kind m) ∨ ∀ note kind m, stage ≠ .noting note kind m := by
  by_cases hnoting : ∃ note kind m, stage = .noting note kind m
  · exact Or.inl hnoting
  · exact Or.inr fun note kind m he => hnoting ⟨note, kind, m, he⟩

theorem noting_of_enters {notes : Queue Note} {note : Note} (h : enters? notes stage = some note) :
    ∃ kind m, stage = .noting note kind m := by
  unfold enters? at h
  split at h
  · split at h
    · obtain rfl := Option.some.inj h
      exact ⟨_, _, rfl⟩
    · cases h
  · cases h

-- A turn puts a note at the end of the engine's queue or leaves the queue alone.
theorem turn_notes (H : Digest) (draw : Draw) (stage : Calls.Stage) (e : Engine) :
    (stage.turn H draw e).engine.notes.items = e.notes.items ++ (enters? e.notes stage).toList := by
  rcases noting_or_quiet stage with ⟨note, kind, m, rfl⟩ | hquiet
  · simp only [Calls.Stage.turn, enters?, Queue.offer_snd]
    split <;> simp
  · have hnone : enters? e.notes stage = none :=
      Option.eq_none_iff_forall_ne_some.mpr fun note hsome => by
        obtain ⟨kind, m, hstage⟩ := noting_of_enters hsome
        exact hquiet note kind m hstage
    rw [(turns_of_quiet (stage.turns H draw e) hquiet).1, hnone, Option.toList_none, List.append_nil]

theorem turn_genuine (H : Digest) (draw : Draw) (stage : Calls.Stage) (e : Engine)
    (h : Genuine stage) : Genuine (stage.turn H draw e).stage := by
  rcases noting_or_quiet stage with ⟨note, kind, m, rfl⟩ | hquiet
  · trivial
  · exact (turns_of_quiet (stage.turns H draw e) hquiet).2 h

end Turn

section Run

variable {H : Digest} {h h' : Hub} {event : Event} {events : Events} {k : Nat} {m : Message}
  {trace : Calls.Trace}
  {self : String} {settings : Settings} {announceQueue dispatchQueue noteQueue : Nat}

-- The call has nothing left to do but relay the message, or is through with it.
def Handed (calls : List Calls.Call) (trace : Calls.Trace) (k : Nat) (m : Message) : Prop :=
  ∃ draw, (∃ kind, calls[k]? = some ⟨draw, .closing kind m⟩) ∨
    calls[k]? = some ⟨draw, .ended⟩ ∧ ∃ targets, (k, .handled m (.processed targets)) ∈ trace

theorem Handed.not_noting {call : Calls.Call} (hd : Handed h.calls trace k m)
    (hk : h.calls[k]? = some call)
    (note : Note) (kind : Kind) (m' : Message) : call.stage ≠ .noting note kind m' := by
  rintro hstage
  obtain ⟨draw, ⟨kind', hcall⟩ | ⟨hcall, _⟩⟩ := hd <;>
    · obtain rfl := Option.some.inj (hk.symm.trans hcall)
      cases hstage

theorem Handed.step (hd : Handed h.calls trace k m) (hs : Step H h event h') :
    Handed h'.calls (trace ++ event.acts) k m := by
  cases hs with
  | call draw stage hstage =>
      have hlater {call : Calls.Call} (hk : h.calls[k]? = some call) :
          (h.calls ++ [⟨draw, stage⟩])[k]? = some call := by
        rw [List.getElem?_append_left (List.getElem?_eq_some_iff.mp hk).1, hk]
      obtain ⟨draw', ⟨kind, hcall⟩ | ⟨hcall, targets, hmem⟩⟩ := hd
      · exact ⟨draw', Or.inl ⟨kind, hlater hcall⟩⟩
      · exact ⟨draw', Or.inr ⟨hlater hcall, targets, List.mem_append_left _ hmem⟩⟩
  | @turn call turn i hi hturn =>
      subst hturn
      by_cases hsame : i = k
      · subst hsame
        have hset (call' : Calls.Call) : (h.calls.set i call')[i]? = some call' :=
          List.getElem?_set_self (List.getElem?_eq_some_iff.mp hi).1
        obtain ⟨draw', ⟨kind, hcall⟩ | ⟨hcall, targets, hmem⟩⟩ := hd
        · obtain rfl := Option.some.inj (hi.symm.trans hcall)
          obtain ⟨hended, targets, hmem⟩ := (Calls.Stage.turns H draw' h.shared _).of_closing
          refine ⟨draw', Or.inr ⟨by rw [hset, hended], targets, List.mem_append_right _ ?_⟩⟩
          exact List.mem_map_of_mem hmem
        · obtain rfl := Option.some.inj (hi.symm.trans hcall)
          exact ⟨draw', Or.inr ⟨hset _, targets, List.mem_append_left _ hmem⟩⟩
      · have hother (call' : Calls.Call) : (h.calls.set i call')[k]? = h.calls[k]? :=
          List.getElem?_set_ne hsame
        obtain ⟨draw', ⟨kind, hcall⟩ | ⟨hcall, targets, hmem⟩⟩ := hd
        · exact ⟨draw', Or.inl ⟨kind, (hother _).trans hcall⟩⟩
        · exact ⟨draw', Or.inr ⟨(hother _).trans hcall, targets, List.mem_append_left _ hmem⟩⟩
  | _ => simpa [Event.acts] using hd

-- Each note comes of a call of its own, which was about data with that payload.
structure Entered (events : Events) (h : Hub) : Prop where
  genuine : ∀ call ∈ h.calls, Genuine call.stage
  once : (events.entries.map (·.1)).Nodup
  made : ∀ k note, (k, note) ∈ events.entries → ∃ m, m.kind? = some (.data note.datatype) ∧
    note = ⟨m.id, note.datatype, m.payload⟩ ∧ Handed h.calls events.trace k m

theorem Entered.kept {note : Note} (he : Entered events h) (hs : Step H h event h')
    (hmem : (k, note) ∈ events.entries) :
    ∃ m, m.kind? = some (.data note.datatype) ∧ note = ⟨m.id, note.datatype, m.payload⟩ ∧
      Handed h'.calls (Events.trace (events ++ [event])) k m := by
  obtain ⟨m, hkind, hnote, hhanded⟩ := he.made k note hmem
  exact ⟨m, hkind, hnote, by simpa [Events.trace] using hhanded.step hs⟩

theorem Entered.quiet (he : Entered events h) (hs : Step H h event h')
    (hgenuine : ∀ call ∈ h'.calls, Genuine call.stage) (hnone : Events.entries [event] = []) :
    Entered (events ++ [event]) h' where
  genuine := hgenuine
  once := by simpa [hnone] using he.once
  made k note hmem := he.kept hs (by simpa [hnone] using hmem)

theorem Entered.step (he : Entered events h) (hs : Step H h event h') :
    Entered (events ++ [event]) h' := by
  have hstep := hs
  cases hs with
  | call draw stage hstage =>
      refine he.quiet hstep (fun call hmem => ?_) rfl
      rcases List.mem_append.mp hmem with hold | hnew
      · exact he.genuine call hold
      · rw [List.mem_singleton.mp hnew]
        cases hstage <;> trivial
  | @turn call turn k hk hturn =>
      subst hturn
      have hcall := he.genuine call (List.mem_of_getElem? hk)
      have hgenuine :
          ∀ other ∈ h.calls.set k ⟨call.draw, (call.stage.turn H call.draw h.shared).stage⟩,
          Genuine other.stage := by
        intro other hmem
        rcases List.mem_or_eq_of_mem_set hmem with hold | rfl
        · exact he.genuine other hold
        · exact turn_genuine H call.draw call.stage h.shared hcall
      cases hentry : enters? h.engine.notes call.stage with
      | none =>
          rw [hentry] at hstep
          exact he.quiet hstep hgenuine rfl
      | some note =>
          obtain ⟨kind, m, hstage⟩ := noting_of_enters hentry
          rw [hstage] at hcall
          obtain ⟨hkind, datatype, rfl, rfl⟩ := hcall
          rw [hentry] at hstep
          have hfresh : k ∉ events.entries.map (·.1) := by
            intro hmem
            obtain ⟨⟨_, other⟩, hentered, rfl⟩ := List.mem_map.mp hmem
            obtain ⟨m', _, _, hhanded⟩ := he.made _ other hentered
            exact hhanded.not_noting hk _ _ _ hstage
          refine ⟨hgenuine, ?_, fun i other hmem => ?_⟩
          · rw [Events.entries_append, List.map_append]
            exact he.once.append (List.nodup_singleton k) (by simpa using hfresh)
          · rw [Events.entries_append] at hmem
            rcases List.mem_append.mp hmem with hold | hnew
            · exact he.kept hstep hold
            · obtain ⟨rfl, rfl⟩ := Prod.mk.inj (List.mem_singleton.mp hnew)
              refine ⟨m, hkind, rfl, call.draw, Or.inl ⟨.data datatype, ?_⟩⟩
              rw [hstage]
              exact List.getElem?_set_self (List.getElem?_eq_some_iff.mp hk).1
  | _ => exact he.quiet hstep he.genuine rfl

theorem entered_of_run
    (run : Run (Step H) (start self settings announceQueue dispatchQueue noteQueue) events h) :
    Entered events h := by
  induction run with
  | refl => exact ⟨by simp [start], List.nodup_nil, by simp [Events.entries]⟩
  | step _ hs ih => exact ih.step hs

-- The call took the message in as new.
theorem Handed.remembered {p : Calls.Pool} {capacity : Nat} (hd : Handed p.calls trace k m)
    (ha : Calls.Pool.Accounts capacity trace p) : (k, .remember .peer m.id true) ∈ trace := by
  obtain ⟨draw, ⟨kind, hcall⟩ | ⟨_, targets, hmem⟩⟩ := hd
  · have hpast : trace.processing k = [.remember .peer m.id true, .dispatch m.id] :=
      ha.past k _ hcall
    exact (Calls.Trace.mem_processing.mp (hpast ▸ List.mem_cons_self)).1
  · obtain ⟨stage, hpast⟩ := ha.exists_past k
    obtain ⟨before, after, hsplit⟩ :=
      List.append_of_mem (Calls.Trace.mem_processing.mpr ⟨hmem, rfl⟩)
    rw [hsplit] at hpast
    exact (Calls.Trace.mem_processing.mp (hsplit ▸ List.mem_append_left _ hpast.taken_before)).1

-- What was looked up, what the task holds and what waits came in in this order.
theorem queued_of_run
    (run : Run (Step H) (start self settings announceQueue dispatchQueue noteQueue) events h) :
    (events.looked ++ (h.dispatcher.held ++ h.engine.notes.items)).Sublist (events.entries.map (·.2)) := by
  induction run with
  | refl => exact List.Sublist.refl _
  | @step early hub hub' event hrun hs ih =>
      rw [Events.looked_append, Events.entries_append, List.map_append]
      cases hs with
      | @turn call turn k hk hturn =>
          subst hturn
          have hlater := ih.append (List.Sublist.refl (enters? hub.engine.notes call.stage).toList)
          rw [turn_notes]
          simpa [shared] using hlater
      | take hidle htake =>
          have hitems := (Queue.items_of_take? htake).2
          rw [hidle, hitems] at ih
          simpa [Dispatcher.held, Work.looked?] using ih
      | look hholding hnames =>
          rw [hholding] at ih
          simpa [Dispatcher.held, Work.looked?] using ih
      | offer hsending | forward hsending =>
          rw [hsending] at ih
          simpa [Dispatcher.held, Work.looked?] using ih
      | halt hidle =>
          have hlost := (List.sublist_append_left _ _).trans ih
          simpa [Dispatcher.held, Work.looked?, Queue.close] using hlost
      | _ => simpa using ih

theorem Step.turn_last (h : Hub) (calls : List Calls.Call) {draw : Draw} {stage : Calls.Stage}
    {turn : Calls.Turn} (hturn : stage.turn H draw h.shared = turn) :
    Step H { h with calls := calls ++ [⟨draw, stage⟩] }
      (.turned calls.length turn.acts (enters? h.engine.notes stage))
      { h with engine := turn.engine, calls := calls ++ [⟨draw, turn.stage⟩] } := by
  let before : Hub := { h with calls := calls ++ [⟨draw, stage⟩] }
  have hk : before.calls[calls.length]? = some ⟨draw, stage⟩ := by simp [before]
  have hset : before.calls.set calls.length ⟨draw, turn.stage⟩ = calls ++ [⟨draw, turn.stage⟩] := by
    simp [before]
  have hstep : Step H before _ _ := .turn calls.length hk hturn
  rw [hset] at hstep
  exact hstep

-- New data that somebody asked for enters the queue if that has room.
theorem enter_alone {datatype : UInt16} (draw : Draw)
    (hvalid : Stamp.isValid H h.engine.settings.difficulty m = true)
    (hkind : m.kind? = some (.data datatype)) (hnew : (h.engine.remember m.id).1 = true)
    (hasked : h.bridge.interest.has datatype = true) (hroom : h.engine.notes.hasRoom = true) :
    let note : Note := ⟨m.id, datatype, m.payload⟩
    Run (Step H) h [.quiet, .turned h.calls.length [.remember .peer m.id true] none,
        .turned h.calls.length [.dispatch m.id] none, .turned h.calls.length [] (some note)]
      { h with
        engine := { (h.shared.remember m.id).2 with notes := (h.engine.notes.offer note).2 }
        calls := h.calls ++ [⟨draw, .closing (.data datatype) m⟩] } := by
  intro note
  let known : Hub := { h with engine := (h.shared.remember m.id).2 }
  have hcall : Step H h .quiet { h with calls := h.calls ++ [⟨draw, .arrived m⟩] } :=
    .call draw _ (.arrived m)
  have harrived : Step H { h with calls := h.calls ++ [⟨draw, .arrived m⟩] }
      (.turned h.calls.length [.remember .peer m.id true] none)
      { known with calls := h.calls ++ [⟨draw, .taken (.data datatype) m⟩] } :=
    .turn_last h h.calls (Calls.Stage.turn_arrived hvalid hkind hnew)
  have htaken : Step H { known with calls := h.calls ++ [⟨draw, .taken (.data datatype) m⟩] }
      (.turned h.calls.length [.dispatch m.id] none)
      { known with calls := h.calls ++ [⟨draw, .noting note (.data datatype) m⟩] } :=
    .turn_last known h.calls (Calls.Stage.turn_taken_data hasked)
  have hnoting : Step H { known with calls := h.calls ++ [⟨draw, .noting note (.data datatype) m⟩] }
      (.turned h.calls.length [] (enters? h.engine.notes (.noting note (.data datatype) m))) _ :=
    .turn_last known h.calls rfl
  rw [enters?, if_pos hroom] at hnoting
  exact (((Run.single hcall).step harrived).step htaken).step hnoting

end Run

end Rumor.Hub
