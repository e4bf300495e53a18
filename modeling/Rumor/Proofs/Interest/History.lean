import Mathlib.Data.List.DropRight
import Rumor.Proofs.Interest
import Rumor.Proofs.Mailboxes.Delivery

-- What a map of subscriptions holds after any connections have subscribed and left, and
-- who then gets a note.
namespace Rumor.Interest

-- What connections do to the map. One may come with another queue each time.
inductive Op
  | subscribe (connection : String) (datatype : UInt16) (queue : String)
  | unsubscribe (connection : String)
deriving DecidableEq

def act (i : Interest) : Op → Interest
  | .subscribe connection datatype queue => i.subscribe connection datatype queue
  | .unsubscribe connection => (i.unsubscribe connection).2

def after (ops : List Op) : Interest :=
  ops.foldl act empty

-- The datatype that `name` asks for, and the queue that it brings.
def Op.asks? (name : String) : Op → Option (UInt16 × String)
  | .subscribe connection datatype queue =>
      if connection = name then some (datatype, queue) else none
  | .unsubscribe _ => none

-- What `name` has asked for since it last left, in order.
def asked (ops : List Op) (name : String) : List (UInt16 × String) :=
  (ops.rtakeWhile (· ≠ .unsubscribe name)).filterMap (Op.asks? name)

-- The queue that `name` brought when it first asked for something.
def queue? (ops : List Op) (name : String) : Option String :=
  (asked ops name).head?.map (·.2)

variable {ops : List Op} {i : Interest} {name other : String} {datatype : UInt16} {queue : String}
  {e : Subscription}

section Asked

theorem after_concat (ops : List Op) (op : Op) : after (ops ++ [op]) = (after ops).act op := by
  simp [after]

theorem asked_subscribe (ops : List Op) (other : String) :
    asked (ops ++ [.subscribe name datatype queue]) other =
      if other = name then asked ops other ++ [(datatype, queue)] else asked ops other := by
  rw [asked, List.rtakeWhile_concat, if_pos (by simp), List.filterMap_append, asked]
  by_cases hsame : other = name
  · simp [hsame, Op.asks?]
  · simp [hsame, Ne.symm hsame, Op.asks?]

-- The queue that was brought first stays.
theorem queue?_subscribe (ops : List Op) (other : String) :
    queue? (ops ++ [.subscribe name datatype queue]) other =
      if other = name then (queue? ops other).or (some queue) else queue? ops other := by
  rw [queue?, asked_subscribe, queue?]
  split
  · cases asked ops other <;> rfl
  · rfl

theorem asked_unsubscribe (ops : List Op) (other : String) :
    asked (ops ++ [.unsubscribe name]) other =
      if other = name then [] else asked ops other := by
  rw [asked, List.rtakeWhile_concat]
  by_cases hsame : other = name
  · simp [hsame]
  · simp [hsame, Ne.symm hsame, Op.asks?, asked]

end Asked

-- Each entry is of a connection that has asked for something, with the queue that it
-- brought first and all that it asked for.
structure Records (ops : List Op) (i : Interest) : Prop where
  nodup : (i.entries.map (·.connection)).Nodup
  entry : ∀ name, name ∈ i.entries.map (·.connection) ↔ asked ops name ≠ []
  queue : ∀ e ∈ i.entries, queue? ops e.connection = some e.queue
  distinct : ∀ e ∈ i.entries, e.datatypes.Nodup
  datatypes : ∀ e ∈ i.entries, ∀ datatype, datatype ∈ e.datatypes ↔
    ∃ queue, (datatype, queue) ∈ asked ops e.connection

theorem records_empty : Records [] empty where
  nodup := List.nodup_nil
  entry name := by simp [empty, asked]
  queue e he := by cases he
  distinct e he := by cases he
  datatypes e he := by cases he

theorem Records.subscribe (h : Records ops i) (name : String) (datatype : UInt16) (queue : String) :
    Records (ops ++ [.subscribe name datatype queue]) (i.subscribe name datatype queue) where
  nodup := nodup_subscribe h.nodup queue
  entry other := by
    rw [mem_connections_subscribe, h.entry, asked_subscribe]
    by_cases hsame : other = name <;> simp [hsame]
  queue e he := by
    rw [queue?_subscribe]
    rcases mem_subscribe.mp he with ⟨hold, hother⟩ | ⟨old, hold, hname, rfl⟩ | ⟨hnew, rfl⟩
    · rw [if_neg hother, h.queue e hold]
    · rw [if_pos hname, h.queue old hold, Option.some_or]
    · have hnone : asked ops name = [] := by simpa using (h.entry name).not.mp hnew
      simp [queue?, hnone]
  distinct e he := by
    rcases mem_subscribe.mp he with ⟨hold, _⟩ | ⟨old, hold, _, rfl⟩ | ⟨_, rfl⟩
    · exact h.distinct e hold
    · exact (h.distinct old hold).insert
    · exact List.nodup_singleton datatype
  datatypes e he := by
    intro other
    rw [asked_subscribe]
    rcases mem_subscribe.mp he with ⟨hold, hother⟩ | ⟨old, hold, rfl, rfl⟩ | ⟨hnew, rfl⟩
    · rw [if_neg hother, h.datatypes e hold]
    · rw [if_pos rfl, List.mem_insert_iff, h.datatypes old hold]
      simp only [List.mem_append, List.mem_singleton, Prod.mk.injEq, exists_or, exists_and_left,
        exists_eq, and_true]
      exact Or.comm
    · have hnone : asked ops name = [] := by simpa using (h.entry name).not.mp hnew
      simp [hnone]

theorem Records.unsubscribe (h : Records ops i) (name : String) :
    Records (ops ++ [.unsubscribe name]) (i.unsubscribe name).2 := by
  have hstays {e : Subscription} (he : e ∈ (i.unsubscribe name).2.entries) :
      e ∈ i.entries ∧ asked (ops ++ [.unsubscribe name]) e.connection = asked ops e.connection := by
    obtain ⟨hold, hother⟩ := List.mem_filter.mp he
    exact ⟨hold, by rw [asked_unsubscribe, if_neg (of_decide_eq_true hother)]⟩
  constructor
  case nodup => exact h.nodup.sublist (List.filter_sublist.map _)
  case entry =>
    intro other
    rw [mem_connections_unsubscribe, h.entry, asked_unsubscribe]
    by_cases hsame : other = name <;> simp [hsame]
  case queue =>
    intro e he
    obtain ⟨hold, hasked⟩ := hstays he
    rw [queue?, hasked]
    exact h.queue e hold
  case distinct => exact fun e he => h.distinct e (hstays he).1
  case datatypes =>
    intro e he
    obtain ⟨hold, hasked⟩ := hstays he
    rw [hasked]
    exact h.datatypes e hold

theorem records_after (ops : List Op) : Records ops (after ops) := by
  induction ops using List.reverseRecOn with
  | nil => exact records_empty
  | append_singleton ops op ih =>
      rw [after_concat]
      cases op with
      | subscribe name datatype queue => exact ih.subscribe name datatype queue
      | unsubscribe name => exact ih.unsubscribe name

-- The connections that have asked for `datatype`.
def holders (i : Interest) (datatype : UInt16) : List String :=
  (i.entries.filter (·.datatypes.contains datatype)).map (·.connection)

theorem Records.mem_holders (h : Records ops i) (datatype : UInt16) (name : String) :
    name ∈ i.holders datatype ↔ ∃ queue, (datatype, queue) ∈ asked ops name := by
  simp only [holders, List.mem_map, List.mem_filter, List.contains_iff_mem]
  constructor
  · rintro ⟨e, ⟨he, hmem⟩, rfl⟩
    exact (h.datatypes e he datatype).mp hmem
  · rintro ⟨queue, hmem⟩
    obtain ⟨e, he, rfl⟩ := List.mem_map.mp ((h.entry name).mpr (List.ne_nil_of_mem hmem))
    exact ⟨e, ⟨he, (h.datatypes e he datatype).mpr ⟨queue, hmem⟩⟩, rfl⟩

theorem Records.map_subscribers (h : Records ops i) (datatype : UInt16) :
    (i.subscribers datatype).map some = (i.holders datatype).map (queue? ops) := by
  simp only [subscribers, holders, List.map_map]
  exact List.map_congr_left fun e he => (h.queue e (List.mem_of_mem_filter he)).symm

theorem has_iff (i : Interest) (datatype : UInt16) :
    i.has datatype = true ↔ i.subscribers datatype ≠ [] := by
  simp [has, subscribers, List.filter_eq_nil_iff]

-- Whatever connections have done, the map has an entry for those that have asked for
-- something since they last left, with the queue that came first and with all that they
-- asked for. A note is offered once for each of those that asked for it, in whatever order
-- they stand, and no queue takes more of it than it has room for.
theorem entries_as_asked (ops : List Op) :
    let i := after ops
    (i.entries.map (·.connection)).Nodup ∧
    (∀ name, name ∈ i.entries.map (·.connection) ↔ asked ops name ≠ []) ∧
    (∀ e ∈ i.entries, queue? ops e.connection = some e.queue ∧ e.datatypes.Nodup ∧
      ∀ datatype, datatype ∈ e.datatypes ↔ ∃ queue, (datatype, queue) ∈ asked ops e.connection) ∧
    (∀ name, (i.unsubscribe name).1 = true ↔ asked ops name ≠ []) ∧
    (∃ names : List String, names.Nodup ∧ (∀ name, name ∈ names ↔ asked ops name ≠ []) ∧
      i.size = names.length) ∧
    (∀ datatype, ∃ names : List String, names.Nodup ∧
      (∀ name, name ∈ names ↔ ∃ queue, (datatype, queue) ∈ asked ops name) ∧
      (i.subscribers datatype).map some = names.map (queue? ops)) ∧
    (∀ datatype, i.has datatype = true ↔ i.subscribers datatype ≠ []) ∧
    ∀ (m : Mailboxes) (note : Note) (queues : List String),
      queues.Perm (i.subscribers note.datatype) →
      let (tally, m') := m.deliver queues note
      tally.delivered + tally.dropped = (i.subscribers note.datatype).length ∧
      ∑ queue ∈ queues.toFinset, (m'.waiting queue).length =
        ∑ queue ∈ queues.toFinset, (m.waiting queue).length + tally.delivered ∧
      ∀ queue, (m.get? queue = none → m'.get? queue = none) ∧ ∀ q, m.get? queue = some q →
        let copies := min ((i.subscribers note.datatype).count queue) q.room
        m'.get? queue = some { q with items := q.items ++ List.replicate copies note } ∧
          (q.items.length ≤ q.capacity → q.items.length + copies ≤ q.capacity) := by
  intro i
  have h : Records ops i := records_after ops
  refine ⟨h.nodup, h.entry, fun e he => ⟨h.queue e he, h.distinct e he, h.datatypes e he⟩,
    fun name => unsubscribe_fst.trans (h.entry name),
    ⟨_, h.nodup, h.entry, (List.length_map _).symm⟩, fun datatype =>
      ⟨i.holders datatype, ?_, h.mem_holders datatype, h.map_subscribers datatype⟩, i.has_iff,
    fun m note queues hperm => ?_⟩
  · exact h.nodup.sublist (List.filter_sublist.map _)
  · have htally := Mailboxes.delivered_add_dropped m queues note
    have hwaiting :=
      m.sum_waiting_deliver note fun queue (hmem : queue ∈ queues) => List.mem_toFinset.mpr hmem
    have hget := Mailboxes.get?_deliver m queues note
    generalize m.deliver queues note = delivery at htally hwaiting hget ⊢
    obtain ⟨tally, m'⟩ := delivery
    refine ⟨hperm.length_eq ▸ htally, hwaiting,
      fun queue => ⟨fun hnone => by rw [hget, hnone, Option.map_none], ?_⟩⟩
    intro q hq copies
    have hfilled :
        m'.get? queue = some (q.filled ((i.subscribers note.datatype).count queue) note) := by
      rw [hget, hq, Option.map_some, hperm.count_eq]
    refine ⟨hfilled, fun hfits => ?_⟩
    simpa [Queue.filled] using Queue.length_filled_le hfits
      ((i.subscribers note.datatype).count queue) note

-- Who left and comes back brings another queue.
example :
    (after [.subscribe "c" 7 "p", .subscribe "c" 8 "q", .unsubscribe "c", .subscribe "c" 9 "r",
    .subscribe "c" 9 "p"]).entries = [⟨"c", "r", [9]⟩] := by decide

end Rumor.Interest
