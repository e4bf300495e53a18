import Mathlib.Data.List.Basic
import Mathlib.Data.List.Nodup
import Rumor.Interest

namespace Rumor.Interest

variable {i : Interest} {name other : String} {datatype asked : UInt16}

def Holds (i : Interest) (name : String) (datatype : UInt16) : Prop :=
  ∃ e ∈ i.entries, e.connection = name ∧ datatype ∈ e.datatypes

-- One entry at most for each connection, which reads from a queue of its own name
-- and has asked for something.
structure Tidy (i : Interest) : Prop where
  nodup : (i.entries.map (·.connection)).Nodup
  queue : ∀ e ∈ i.entries, e.queue = e.connection
  asks : ∀ e ∈ i.entries, e.datatypes ≠ []

theorem tidy_empty : empty.Tidy :=
  ⟨List.nodup_nil, fun _ h => absurd h List.not_mem_nil, fun _ h => absurd h List.not_mem_nil⟩

@[simp] theorem not_holds_empty : ¬empty.Holds name datatype := by
  simp [Holds, empty]

section Entries

variable {e : Subscription}

theorem mem_subscribe {queue : String} : e ∈ (i.subscribe name datatype queue).entries ↔
    e ∈ i.entries ∧ e.connection ≠ name ∨
      (∃ old ∈ i.entries, old.connection = name ∧
        e = { old with datatypes := old.datatypes.insert datatype }) ∨
      name ∉ i.entries.map (·.connection) ∧ e = ⟨name, queue, [datatype]⟩ := by
  unfold subscribe
  split
  · rename_i hknown
    have hknown : name ∈ i.entries.map (·.connection) := by simpa using hknown
    simp only [List.mem_map, hknown, not_true_eq_false, false_and, or_false]
    grind
  · rename_i hnew
    have hnew : name ∉ i.entries.map (·.connection) := by simpa using hnew
    simp only [List.mem_append, List.mem_singleton]
    grind

-- An entry that is there stays in its place, and a new one comes last.
theorem connections_subscribe (queue : String) :
    (i.subscribe name datatype queue).entries.map (·.connection) =
      if name ∈ i.entries.map (·.connection) then i.entries.map (·.connection)
      else i.entries.map (·.connection) ++ [name] := by
  have hknown : (i.entries.any (·.connection = name) = true) ↔
      name ∈ i.entries.map (·.connection) := by simp
  unfold subscribe
  simp only [hknown]
  split
  · rw [List.map_map]
    refine List.map_congr_left fun e _ => ?_
    dsimp only [Function.comp]
    split <;> rfl
  · rw [List.map_append]
    rfl

theorem mem_connections_subscribe {queue : String} :
    other ∈ (i.subscribe name datatype queue).entries.map (·.connection) ↔
      other ∈ i.entries.map (·.connection) ∨ other = name := by
  rw [connections_subscribe]
  split
  · rename_i hknown
    exact ⟨Or.inl, fun h => h.elim id fun hsame => hsame ▸ hknown⟩
  · rw [List.mem_append, List.mem_singleton]

theorem nodup_subscribe (h : (i.entries.map (·.connection)).Nodup) (queue : String) :
    ((i.subscribe name datatype queue).entries.map (·.connection)).Nodup := by
  rw [connections_subscribe]
  split
  · exact h
  · rename_i hnew
    rw [← List.concat_eq_append]
    exact h.concat hnew

theorem mem_connections_unsubscribe :
    other ∈ (i.unsubscribe name).2.entries.map (·.connection) ↔
      other ∈ i.entries.map (·.connection) ∧ other ≠ name := by
  simp only [unsubscribe, List.mem_map, List.mem_filter, decide_eq_true_eq]
  grind

theorem unsubscribe_fst : (i.unsubscribe name).1 = true ↔ name ∈ i.entries.map (·.connection) := by
  simp [unsubscribe]

end Entries

theorem holds_subscribe (queue : String) :
    (i.subscribe name datatype queue).Holds other asked ↔
      i.Holds other asked ∨ other = name ∧ asked = datatype := by
  constructor
  · rintro ⟨e, he, rfl, hmem⟩
    rcases mem_subscribe.mp he with ⟨hold, _⟩ | ⟨old, hold, hname, rfl⟩ | ⟨_, rfl⟩
    · exact Or.inl ⟨e, hold, rfl, hmem⟩
    · rcases List.mem_insert_iff.mp hmem with rfl | hmem
      · exact Or.inr ⟨hname, rfl⟩
      · exact Or.inl ⟨old, hold, rfl, hmem⟩
    · exact Or.inr ⟨rfl, List.mem_singleton.mp hmem⟩
  · rintro (⟨e, he, rfl, hmem⟩ | ⟨rfl, rfl⟩)
    · by_cases hname : e.connection = name
      · exact ⟨_, mem_subscribe.mpr (Or.inr (Or.inl ⟨e, he, hname, rfl⟩)), rfl,
          List.mem_insert_of_mem hmem⟩
      · exact ⟨e, mem_subscribe.mpr (Or.inl ⟨he, hname⟩), rfl, hmem⟩
    · by_cases hthere : other ∈ i.entries.map (·.connection)
      · obtain ⟨e, he, hname⟩ := List.mem_map.mp hthere
        exact ⟨_, mem_subscribe.mpr (Or.inr (Or.inl ⟨e, he, hname, rfl⟩)), hname,
          List.mem_insert_self⟩
      · exact ⟨_, mem_subscribe.mpr (Or.inr (Or.inr ⟨hthere, rfl⟩)), rfl, List.mem_singleton_self _⟩

theorem holds_unsubscribe :
    (i.unsubscribe name).2.Holds other asked ↔ i.Holds other asked ∧ other ≠ name := by
  simp only [Holds, unsubscribe, List.mem_filter, decide_eq_true_eq]
  grind

theorem Tidy.subscribe (h : i.Tidy) (name : String) (datatype : UInt16) :
    (i.subscribe name datatype name).Tidy where
  nodup := nodup_subscribe h.nodup name
  queue e he := by
    rcases mem_subscribe.mp he with ⟨hold, _⟩ | ⟨old, hold, _, rfl⟩ | ⟨_, rfl⟩
    · exact h.queue e hold
    · exact h.queue old hold
    · rfl
  asks e he := by
    rcases mem_subscribe.mp he with ⟨hold, _⟩ | ⟨old, hold, _, rfl⟩ | ⟨_, rfl⟩
    · exact h.asks e hold
    · exact List.ne_nil_of_mem List.mem_insert_self
    · exact List.cons_ne_nil _ _

theorem Tidy.unsubscribe (h : i.Tidy) (name : String) : (i.unsubscribe name).2.Tidy where
  nodup := h.nodup.sublist (List.filter_sublist.map _)
  queue e he := h.queue e (List.mem_of_mem_filter he)
  asks e he := h.asks e (List.mem_of_mem_filter he)

theorem Tidy.subscribers_eq (h : i.Tidy) (datatype : UInt16) :
    i.subscribers datatype =
      (i.entries.filter (·.datatypes.contains datatype)).map (·.connection) :=
  List.map_congr_left fun e he => h.queue e (List.mem_of_mem_filter he)

theorem Tidy.mem_subscribers (h : i.Tidy) :
    name ∈ i.subscribers datatype ↔ i.Holds name datatype := by
  simp only [h.subscribers_eq, List.mem_map, List.mem_filter, List.contains_iff_mem, Holds]
  grind

theorem Tidy.nodup_subscribers (h : i.Tidy) (datatype : UInt16) :
    (i.subscribers datatype).Nodup := by
  rw [h.subscribers_eq]
  exact h.nodup.sublist (List.filter_sublist.map _)

-- A connection that asks for nothing has no entry.
theorem Tidy.ne_of_not_holds (h : i.Tidy) (hnone : ∀ datatype, ¬i.Holds name datatype) :
    ∀ e ∈ i.entries, e.connection ≠ name := by
  rintro e he rfl
  obtain ⟨datatype, hmem⟩ := List.exists_mem_of_ne_nil _ (h.asks e he)
  exact hnone datatype ⟨e, he, rfl, hmem⟩

section Unsubscribe

theorem unsubscribe_of_not_mem (h : ∀ e ∈ i.entries, e.connection ≠ name) :
    (i.unsubscribe name).2 = i := by
  rw [unsubscribe, List.filter_eq_self.mpr fun e he => decide_eq_true (h e he)]

theorem unsubscribe_subscribe (queue : String) :
    ((i.subscribe name datatype queue).unsubscribe name).2 = (i.unsubscribe name).2 := by
  unfold subscribe
  split
  · simp only [unsubscribe, mk.injEq]
    induction i.entries with
    | nil => rfl
    | cons e rest ih =>
        rw [List.map_cons, List.filter_cons, List.filter_cons, ih]
        by_cases hsame : e.connection = name <;> simp [hsame]
  · simp [unsubscribe]

theorem unsubscribe_unsubscribe (i : Interest) (name : String) :
    ((i.unsubscribe name).2.unsubscribe name).2 = (i.unsubscribe name).2 := by
  simp [unsubscribe]

end Unsubscribe

end Rumor.Interest
