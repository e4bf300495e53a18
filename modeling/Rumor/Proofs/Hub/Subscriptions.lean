import Rumor.Proofs.Hub.Conversation
import Rumor.Proofs.Hub.Delivery

namespace Rumor.Hub

-- The datatype is not reserved, and the connection has read a request for it.
def Deeds.Requests (deeds : Deeds) (datatype : UInt16) : Prop :=
  ∃ reserved, .frame (.notify reserved datatype) ∈ deeds.readings ∧ Kind.reserved datatype = false

section Run

variable {H : Digest} {self : String} {settings : Settings}
  {announceQueue dispatchQueue noteQueue : Nat}
  {events : Events} {h hub : Hub} {name : String} {c : Client} {deeds : Deeds} {datatype : UInt16}

theorem Deeds.mem_asked_iff : datatype ∈ deeds.asked ↔ deeds.Requests datatype := by
  rw [Deeds.asked_eq, List.mem_filterMap]
  constructor
  · rintro ⟨reading, hread, hasks⟩
    obtain ⟨reserved, rfl, hfree⟩ := Reading.asks?_eq_some.mp hasks
    exact ⟨reserved, hread, hfree⟩
  · rintro ⟨reserved, hread, hfree⟩
    exact ⟨_, hread, Reading.asks?_eq_some.mpr ⟨reserved, rfl, hfree⟩⟩

-- An entry holds something, so an entry is there as long as something is held.
theorem Known.entry_iff (h : Known events hub) (name : String) :
    (∃ e ∈ hub.bridge.interest.entries, e.connection = name) ↔
      (∃ datatype, (events.deeds name).Requests datatype) ∧ .left ∉ events.deeds name := by
  constructor
  · rintro ⟨e, he, rfl⟩
    obtain ⟨datatype, hmem⟩ := List.exists_mem_of_ne_nil _ (h.tidy.asks e he)
    obtain ⟨hasked, hstays⟩ := (h.holds e.connection datatype).mp ⟨e, he, rfl, hmem⟩
    exact ⟨⟨datatype, Deeds.mem_asked_iff.mp hasked⟩, hstays⟩
  · rintro ⟨⟨datatype, hrequests⟩, hstays⟩
    obtain ⟨e, he, hname, _⟩ :=
      (h.holds name datatype).mpr ⟨Deeds.mem_asked_iff.mpr hrequests, hstays⟩
    exact ⟨e, he, hname⟩

theorem Known.datatypes_iff (h : Known events hub) {e : Subscription}
    (he : e ∈ hub.bridge.interest.entries) :
    datatype ∈ e.datatypes ↔ (events.deeds e.connection).Requests datatype := by
  constructor
  · intro hmem
    exact Deeds.mem_asked_iff.mp ((h.holds e.connection datatype).mp ⟨e, he, rfl, hmem⟩).1
  · intro hrequests
    obtain ⟨_, hstays⟩ := (h.entry_iff e.connection).mp ⟨e, he, rfl⟩
    obtain ⟨e', he', hsame, hmem⟩ :=
      (h.holds _ datatype).mpr ⟨Deeds.mem_asked_iff.mpr hrequests, hstays⟩
    obtain rfl : e' = e := List.inj_on_of_nodup_map h.tidy.nodup he' he hsame
    exact hmem

theorem Client.Told.asked_eq_nil (h : Client.Told name deeds c) (hleft : c.left = false)
    (hsubscribed : c.connection.subscribed = false) : deeds.asked = [] := by
  simpa [hsubscribed, h.not_dropped hleft] using h.subscribed

-- The end of a connection that never subscribed is not told to the map, and nothing is
-- left there all the same.
theorem exists_leave
    (run : Run (Step H) (start self settings announceQueue dispatchQueue noteQueue) events h)
    (hc : h.clients name = some c) (hclosed : c.connection.isOpen = false)
    (hleft : c.left = false) :
    ∃ h', Step H h (.did name .left) h' ∧
      h'.bridge.interest.entries = h.bridge.interest.entries.filter (·.connection ≠ name) := by
  have htold := told_of_run run hc
  refine ⟨_, .did hc (.leave hclosed hleft), ?_⟩
  rw [put_bridge]
  cases hsubscribed : c.connection.subscribed with
  | true => exact htold.name ▸ rfl
  | false =>
      have hknown := known_of_run run
      have hnone := hknown.tidy.ne_of_not_holds fun datatype hholds => by
        have hasked := ((hknown.holds name datatype).mp hholds).1
        rw [htold.asked_eq_nil hleft hsubscribed] at hasked
        cases hasked
      exact (congrArg Interest.entries (Interest.unsubscribe_of_not_mem hnone)).symm

end Run

-- Whatever the connections do, and whoever comes in between, the map has an entry for
-- those that have asked for something and not ended, with all that they asked for and
-- nothing else. A connection that is closed can end at any time.
theorem subscribed_while_connected {H : Digest} {self : String} {settings : Settings}
    {announceQueue dispatchQueue noteQueue : Nat} {events : Events} {h : Hub}
    (run : Run (Step H) (start self settings announceQueue dispatchQueue noteQueue) events h) :
    (h.bridge.interest.entries.map (·.connection)).Nodup ∧
    (∀ name, (∃ e ∈ h.bridge.interest.entries, e.connection = name) ↔
      (∃ datatype, (events.deeds name).Requests datatype) ∧ .left ∉ events.deeds name) ∧
    (∀ e ∈ h.bridge.interest.entries, ∀ datatype,
      datatype ∈ e.datatypes ↔ (events.deeds e.connection).Requests datatype) ∧
    (∀ e ∈ h.bridge.interest.entries, ∀ datatype ∈ e.datatypes, Kind.reserved datatype = false) ∧
    ((∀ name c, h.clients name = some c → c.left = true) → h.bridge.interest.entries = []) ∧
    ∀ name c, h.clients name = some c → c.connection.isOpen = false → c.left = false →
      ∃ h', Step H h (.did name .left) h' ∧
        h'.bridge.interest.entries = h.bridge.interest.entries.filter (·.connection ≠ name) := by
  have hknown := known_of_run run
  refine ⟨hknown.tidy.nodup, hknown.entry_iff, fun e he datatype => hknown.datatypes_iff he,
    fun e he datatype hmem => ?_, fun hended => ?_,
    fun name c hc hclosed hleft => exists_leave run hc hclosed hleft⟩
  · obtain ⟨_, _, hfree⟩ := (hknown.datatypes_iff he).mp hmem
    exact hfree
  · apply List.eq_nil_iff_forall_not_mem.mpr
    intro e he
    obtain ⟨⟨datatype, hrequests⟩, hstays⟩ := (hknown.entry_iff e.connection).mp ⟨e, he, rfl⟩
    rcases client_of_new run rfl with ⟨_, hnone⟩ | ⟨c, hc, _⟩
    · rw [hnone] at hrequests
      obtain ⟨_, hread, _⟩ := hrequests
      cases hread
    · exact hstays ((told_of_run run hc).left.mp (hended e.connection c hc))

-- Of two subscribers one goes, and the other stays.
theorem subscribed_while_connected_of_two : ∃ (events : Events) (h : Hub),
    Run (Step (.ofFunction id)) (start "a" {} 1 1 1) events h ∧ .left ∈ events.deeds "c" ∧
      (¬∃ e ∈ h.bridge.interest.entries, e.connection = "c") ∧
      ∃ e ∈ h.bridge.interest.entries, e.connection = "d" ∧ 7 ∈ e.datatypes := by
  let H : Digest := .ofFunction id
  let h₀ : Hub := start "a" {} 1 1 1
  let h₁ : Hub := { h₀ with bridge := served h₀.bridge "c" }.put "c" (subscriber "c")
  let h₂ : Hub := { h₁ with bridge := served h₁.bridge "d" }.put "d" (subscriber "d")
  have hfirst : Run (Step H) h₀ _ h₁ := run_requested rfl
  have hsecond : Run (Step H) h₁ _ h₂ := run_requested (by simp [h₁, h₀, start])
  have hstopped :
      Client.Acts (subscriber "c", h₂.bridge) .stopped ((subscriber "c").closed, h₂.bridge) :=
    .stop rfl rfl
  have hleft :
      Client.Acts ((subscriber "c").closed, h₂.bridge) .left
        ({ (subscriber "c").closed with left := true }, _) :=
    .leave rfl rfl
  have hclient : h₂.clients "c" = some (subscriber "c") := by simp [h₂, h₁]
  have hgone := run_did (H := H) (h := h₂) ((Run.single hstopped).step hleft) hclient
  let events : Events := (.quiet :: (requested h₀.bridge "c").map (.did "c")) ++
    (.quiet :: (requested h₁.bridge "d").map (.did "d")) ++ [.did "c" .stopped, .did "c" .left]
  have hrun : Run (Step H) h₀ events _ := (hfirst.append hsecond).append hgone
  obtain ⟨_, hentry, hdatatypes, _⟩ := subscribed_while_connected hrun
  have hended : .left ∈ events.deeds "c" := Events.mem_deeds.mpr (by simp [events])
  have hstays : .left ∉ events.deeds "d" := Events.mem_deeds.not.mpr (by simp [events, requested])
  have hread : (events.deeds "d").readings = [.frame (.notify 0 7)] := rfl
  have hrequests : (events.deeds "d").Requests 7 := ⟨0, hread ▸ List.mem_singleton_self _, rfl⟩
  obtain ⟨e, he, hname⟩ := (hentry "d").mpr ⟨⟨7, hrequests⟩, hstays⟩
  exact ⟨events, _, hrun, hended, fun hthere => ((hentry "c").mp hthere).2 hended, e, he, hname,
    (hdatatypes e he 7).mpr (hname ▸ hrequests)⟩

end Rumor.Hub
