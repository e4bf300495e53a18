import Rumor.Node
import Rumor.Proofs.Config

namespace Rumor

theorem Instant.isSome_after?_iff {t : Instant} {seconds : UInt64} :
    (t.after? seconds).isSome = true ↔ t.seconds.toInt + seconds.toNat ≤ Int64.maxValue.toInt := by
  rw [after?]
  split <;> simp_all

namespace Node

variable {c : Config} {w : World} {n : Node}

-- The queues that a node makes when it starts, and the one that each subscriber gets.
def capacities (c : Config) : List Nat :=
  [c.noteQueue.toNat, c.announceQueue.toNat, max c.noteQueue.toNat 1]

theorem fits_iff {capacity : Nat} : fits capacity = true ↔ 0 < capacity ∧ capacity ≤ maxQueue := by
  simp [fits]

theorem fits_of_pos {capacity : Nat} (h : 1 ≤ capacity) :
    fits capacity = true ↔ capacity ≤ maxQueue :=
  fits_iff.trans (and_iff_right h)

theorem capacities_pos (h : c.fault? = none) : ∀ capacity ∈ capacities c, 1 ≤ capacity := by
  obtain ⟨_, _, _, _, _, _, _, _, _, _, _, hannounces, hnotes⟩ := Config.fault?_eq_none_iff.mp h
  simp only [capacities, List.forall_mem_cons]
  exact ⟨Config.pos_of_ne_zero hnotes, Config.pos_of_ne_zero hannounces,
    Nat.le_max_right _ _, by simp⟩

theorem periods_ne_zero (h : c.fault? = none) : ∀ p ∈ periods c, p.2 ≠ 0 := by
  obtain ⟨_, _, _, _, _, _, _, _, ⟨hlist, hheartbeat⟩, hrefresh, _⟩ :=
    Config.fault?_eq_none_iff.mp h
  rintro ⟨ticker, period⟩ hp
  simp only [periods, List.cons_append, List.nil_append, List.mem_cons, Prod.mk.injEq,
    Option.mem_toList, Option.map_eq_some_iff] at hp
  rcases hp with ⟨_, rfl⟩ | ⟨_, rfl⟩ | ⟨period, hperiod, rfl, rfl⟩
  · exact hlist
  · exact hheartbeat
  · exact fun hzero => hrefresh (hzero ▸ hperiod)

theorem isSome_firstFiring?_iff {now : Instant} {period : UInt64} (h : period ≠ 0) :
    (firstFiring? now period).isSome = true ↔
      now.seconds.toInt + period.toNat ≤ Int64.maxValue.toInt := by
  rw [firstFiring?, if_neg h, Instant.isSome_after?_iff]

-- The engine shares its queue of notes with the server, and leaves the rest of it alone.
theorem bridge_onEngine {α : Type} (w : World) (n : Node) (act : Draw → Engine → α × Engine) :
    (n.onEngine w act).2.server.bridge = n.server.bridge :=
  rfl

theorem bridge_install (n : Node) (answer : Registry.Call.Answer) :
    (n.install answer).server = n.server := by
  cases answer <;> rfl

theorem join_cases (w : World) (n : Node) :
    (∃ error, (n.join w).1 = .failed (.registry error)) ∨
      ∃ m, (n.join w).1 = .running m ∧ m.server.bridge = n.server.bridge := by
  unfold join
  split
  · exact Or.inl ⟨_, rfl⟩
  · split
    · exact Or.inl ⟨_, rfl⟩
    · exact Or.inr ⟨_, rfl, by rw [announceJoin, bridge_onEngine, bridge_install]⟩

theorem launch_of_fits (w : World) (settings : Settings) (peer : Endpoint)
    (h : fits c.noteQueue.toNat = true ∧ fits c.announceQueue.toNat = true) :
    (∃ error, (launch w c settings peer).1 = .failed (.registry error)) ∨
      ∃ n, (launch w c settings peer).1 = .running n ∧
        n.server.bridge.noteQueue = max c.noteQueue.toNat 1 := by
  have hqueues : ¬(!fits c.noteQueue.toNat || !fits c.announceQueue.toNat) = true := by simp [h]
  rw [launch, if_neg hqueues]
  rcases join_cases w _ with hfailed | ⟨n, hrunning, hbridge⟩
  · exact Or.inl hfailed
  · exact Or.inr ⟨n, hrunning, congrArg Api.Bridge.noteQueue hbridge⟩

theorem launch_of_not_fits {settings : Settings} {peer : Endpoint}
    (h : ¬(fits c.noteQueue.toNat = true ∧ fits c.announceQueue.toNat = true)) :
    (launch w c settings peer).1 = .crashed := by
  rw [launch, if_pos (by simpa [Decidable.imp_iff_not_or] using h)]

theorem launch_eq_crashed_iff {settings : Settings} {peer : Endpoint} (h : c.fault? = none) :
    (launch w c settings peer).1 = .crashed ↔
      maxQueue < c.noteQueue.toNat ∨ maxQueue < c.announceQueue.toNat := by
  have hpos := capacities_pos h
  have hnotes := fits_of_pos (hpos _ (List.mem_cons_self ..))
  have hannounces := fits_of_pos (hpos _ (List.mem_cons_of_mem _ (List.mem_cons_self ..)))
  rw [← Nat.not_le, ← Nat.not_le, ← hnotes, ← hannounces, ← Decidable.not_and_iff_or_not]
  constructor
  · intro hcrashed hfits
    rcases launch_of_fits w settings peer hfits with ⟨_, hfailed⟩ | ⟨_, hrunning, _⟩
    · cases hcrashed.symm.trans hfailed
    · cases hcrashed.symm.trans hrunning
  · exact launch_of_not_fits

theorem fits_of_running {settings : Settings} {peer : Endpoint}
    (h : (launch w c settings peer).1 = .running n) : fits n.server.bridge.noteQueue = true := by
  by_cases hfits : fits c.noteQueue.toNat = true ∧ fits c.announceQueue.toNat = true
  · rcases launch_of_fits w settings peer hfits with ⟨_, hfailed⟩ | ⟨m, hrunning, hqueue⟩
    · cases h.symm.trans hfailed
    · obtain rfl := Startup.running.inj (h.symm.trans hrunning)
      rw [hqueue, Nat.max_eq_left (fits_iff.mp hfits.1).1]
      exact hfits.1
  · cases h.symm.trans (launch_of_not_fits hfits)

theorem start_crashed {network : Network} {free : Nat × Nat}
    (h : (start w network free c).1 = .crashed) :
    ∃ settings peer, (launch w c settings peer).1 = .crashed := by
  unfold start at h
  split at h
  · cases h
  · split at h
    · cases h
    · split at h
      · cases h
      · exact ⟨_, _, h⟩

-- What is valid starts without a crash and goes on without one, unless a queue is to hold
-- more than a queue can, or the clock ends before a ticker fires. The checks look for
-- neither.
theorem starts_unless_too_large (h : c.fault? = none) :
    (∃ settings, c.settings = .ok settings ∧ 1 ≤ settings.fanout ∧ 1 ≤ settings.degree ∧
      1 ≤ settings.cacheSize ∧ 1 ≤ settings.joinTtl) ∧
    (∀ capacity ∈ capacities c, 1 ≤ capacity ∧ (fits capacity = true ↔ capacity ≤ maxQueue)) ∧
    (∀ ticker period, (ticker, period) ∈ periods c → period ≠ 0 ∧ ∀ now,
      (firstFiring? now period).isSome = true ↔
        now.seconds.toInt + period.toNat ≤ Int64.maxValue.toInt) ∧
    (∀ w settings peer, (launch w c settings peer).1 = .crashed ↔
      maxQueue < c.noteQueue.toNat ∨ maxQueue < c.announceQueue.toNat) ∧
    (∀ w network free, (start w network free c).1 = .crashed →
      maxQueue < c.noteQueue.toNat ∨ maxQueue < c.announceQueue.toNat) ∧
    ∀ w settings peer n, (launch w c settings peer).1 = .running n →
      fits n.server.bridge.noteQueue = true := by
  have hcapacities := capacities_pos h
  refine ⟨Config.settings_of_valid h, fun capacity hmem => ?_, fun ticker period hmem => ?_,
    fun w settings peer => launch_eq_crashed_iff h, fun w network free hstart => ?_,
    fun w settings peer n hrunning => fits_of_running hrunning⟩
  · exact ⟨hcapacities capacity hmem, fits_of_pos (hcapacities capacity hmem)⟩
  · have hperiod := periods_ne_zero h _ hmem
    exact ⟨hperiod, fun now => isSome_firstFiring?_iff hperiod⟩
  · obtain ⟨settings, peer, hlaunch⟩ := start_crashed hstart
    exact (launch_eq_crashed_iff h).mp hlaunch

section Example

def announcing (capacity : UInt64) : Config :=
  { announceQueue := capacity }

theorem greatest_queue_starts : (announcing 2305843009213693951).fault? = none ∧
    ∀ w settings peer, (launch w (announcing 2305843009213693951) settings peer).1 ≠ .crashed := by
  have hvalid : (announcing 2305843009213693951).fault? = none := rfl
  obtain ⟨_, _, _, hlaunch, _⟩ := starts_unless_too_large hvalid
  refine ⟨hvalid, fun w settings peer hcrashed => ?_⟩
  rcases (hlaunch w settings peer).mp hcrashed with hnotes | hannounces
  · exact absurd hnotes (by decide)
  · exact absurd hannounces (by decide)

def beating (period : UInt64) : Config :=
  { heartbeatSeconds := period }

-- One more is valid, and no queue can be made of it. The longest period is valid, and no
-- clock that has begun goes that far.
theorem valid_and_too_large : (announcing 2305843009213693952).fault? = none ∧
    (∀ w settings peer, (launch w (announcing 2305843009213693952) settings peer).1 = .crashed) ∧
    (beating 18446744073709551615).fault? = none ∧
    ∀ now : Instant, 0 ≤ now.seconds.toInt →
      firstFiring? now (beating 18446744073709551615).heartbeatSeconds = none := by
  refine ⟨rfl, fun w settings peer => ?_, rfl, fun now hnow => ?_⟩
  · exact (launch_eq_crashed_iff rfl).mpr (Or.inr (by decide))
  · have hlong : Int64.maxValue.toInt < (18446744073709551615 : UInt64).toNat := by decide
    have hperiod : (18446744073709551615 : UInt64) ≠ 0 := by decide
    rw [← Option.not_isSome_iff_eq_none]
    exact fun hsome => absurd (isSome_firstFiring?_iff hperiod |>.mp hsome) (by omega)

end Example

end Node

end Rumor
