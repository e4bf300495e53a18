import Mathlib.Data.Finset.Card
import Rumor.Proofs.Cache
import Rumor.Proofs.Calls

namespace Rumor.Calls

-- Which call did what, in the order in which it was done.
abbrev Trace := List (Nat × Act)

namespace Act

-- The id that was new, if any.
def admits : Act → List MessageId
  | .remember _ id new => if new then [id] else []
  | _ => []

def isDispatchOf (x : MessageId) : Act → Bool
  | .dispatch id => id = x
  | _ => false

def isRelayOf (x : MessageId) : Act → Bool
  | .relay id => id = x
  | _ => false

def takesIn (x : MessageId) : Act → Bool
  | .remember .peer id true => id = x
  | _ => false

-- The acts that only a new message from a peer brings about.
def isProcessing : Act → Bool
  | .remember .peer _ true | .dispatch _ | .relay _ | .handled _ (.processed _) => true
  | _ => false

theorem takesIn_iff {x : MessageId} {act : Act} :
    act.takesIn x = true ↔ act = .remember .peer x true := by
  cases act with
  | remember source id new => cases source <;> cases new <;> simp [takesIn]
  | _ => simp [takesIn]

theorem isProcessing_of_isDispatchOf {x : MessageId} {act : Act} (h : act.isDispatchOf x = true) :
    act.isProcessing = true := by
  cases act <;> simp_all [isDispatchOf, isProcessing]

theorem isProcessing_of_isRelayOf {x : MessageId} {act : Act} (h : act.isRelayOf x = true) :
    act.isProcessing = true := by
  cases act <;> simp_all [isRelayOf, isProcessing]

end Act

namespace Trace

-- The ids that were new, in order.
def admitted (trace : Trace) : List MessageId :=
  trace.flatMap fun (_, act) => act.admits

-- The new ids other than `x`.
def others (x : MessageId) (trace : Trace) : Finset MessageId :=
  (admitted trace).toFinset.erase x

-- What a call did with a message from a peer that was new.
def processing (k : Nat) (trace : Trace) : List Act :=
  (trace.filter fun t => t.1 = k && t.2.isProcessing).map (·.2)

-- How many acts of one sort are due to calls that took `x` in within `window`.
def countFor (trace : Trace) (x : MessageId) (window : Trace) (sort : Act → Bool) : Nat :=
  trace.countP fun t => sort t.2 && window.any fun w => w.1 = t.1 && w.2.takesIn x

@[simp] theorem admitted_append (a b : Trace) : admitted (a ++ b) = admitted a ++ admitted b :=
  List.flatMap_append

@[simp] theorem processing_append (k : Nat) (a b : Trace) :
    processing k (a ++ b) = processing k a ++ processing k b := by
  simp [processing]

theorem processing_turn (k i : Nat) (acts : List Act) :
    processing k (acts.map (i, ·)) = if i = k then acts.filter Act.isProcessing else [] := by
  by_cases h : i = k
  · induction acts with
    | nil => simp [processing]
    | cons act acts ih => cases ha : act.isProcessing <;> simp_all [processing]
  · simp [processing, h]

theorem mem_admitted {trace : Trace} {x : MessageId} :
    x ∈ trace.admitted ↔ ∃ t ∈ trace, x ∈ t.2.admits := by
  simp [admitted]

-- An id that was new once was new in one place.
theorem eq_of_count_le_one {trace : Trace} {x : MessageId} (hone : trace.admitted.count x ≤ 1)
    {t t' : Nat × Act} (ht : t ∈ trace) (ht' : t' ∈ trace) (hx : x ∈ t.2.admits)
    (hx' : x ∈ t'.2.admits) : t = t' := by
  by_contra hne
  obtain ⟨early, late, rfl⟩ := List.append_of_mem ht
  have hother : x ∈ admitted early ∨ x ∈ admitted late := by
    rcases List.mem_append.mp ht' with he | hl
    · exact Or.inl (mem_admitted.mpr ⟨t', he, hx'⟩)
    · exact Or.inr (mem_admitted.mpr ⟨t', (List.mem_cons.mp hl).resolve_left (Ne.symm hne), hx'⟩)
  have hsplit : admitted (early ++ t :: late) =
      admitted early ++ (t.2.admits ++ admitted late) := by
    simp [admitted]
  have hpos := List.count_pos_iff.mpr hx
  rw [hsplit, List.count_append, List.count_append] at hone
  rcases hother with he | hl
  · have := List.count_pos_iff.mpr he
    omega
  · have := List.count_pos_iff.mpr hl
    omega

theorem mem_processing {k : Nat} {trace : Trace} {act : Act} :
    act ∈ trace.processing k ↔ (k, act) ∈ trace ∧ act.isProcessing = true := by
  simp [processing]

theorem countP_processing (k : Nat) (trace : Trace) (sort : Act → Bool)
    (hsort : ∀ act, sort act = true → act.isProcessing = true) :
    (trace.processing k).countP sort = trace.countP fun t => t.1 = k && sort t.2 := by
  rw [processing, List.countP_map, List.countP_filter]
  congr 1
  funext t
  cases hs : sort t.2
  · simp [hs]
  · simp [hs, hsort _ hs]

end Trace

-- The cache takes in the ids that a turn tells of as new, and no others.
theorem Stage.Turns.holds {H : Digest} {draw : Draw} {e : Engine} {stage : Stage} {turn : Turn}
    (hturn : stage.Turns H draw e turn) {ids : List MessageId} (h : e.cache.Holds ids) :
    turn.engine.cache.capacity = e.cache.capacity ∧
      turn.engine.cache.Holds (ids ++ turn.acts.flatMap Act.admits) := by
  have hinsert (id : MessageId) :
      (e.remember id).2.cache.capacity = e.cache.capacity ∧
        (e.remember id).2.cache.Holds (ids ++ if (e.remember id).1 then [id] else []) :=
    ⟨e.cache.insert_capacity id, h.insert id⟩
  cases hturn with
  | knows m hnew => simpa [hnew, Act.admits] using hinsert m.id
  | @takes kind m _ _ hnew => simpa [hnew, Act.admits] using hinsert m.id
  | @dispatches kind m stage e' hdispatch =>
      have hcache : e'.cache = e.cache := by cases hdispatch <;> rfl
      simpa [hcache, Act.admits] using h
  | @repliesNone reply | @replies reply => simpa [Act.admits] using hinsert reply.id
  | makes m => simpa [Act.admits] using hinsert m.id
  | asksNone | asks => simpa [Act.admits] using hinsert draw.fresh
  | _ => simpa [Act.admits] using h

-- How far a call has got with a new message from a peer, given what it did so far.
def Stage.Past (acts : List Act) : Stage → Prop
  | .taken _ m => acts = [.remember .peer m.id true]
  | .noting _ _ m | .bounding _ m | .replying _ _ m | .closing _ m =>
      acts = [.remember .peer m.id true, .dispatch m.id]
  | .ended =>
      acts = [] ∨ ∃ m targets,
        acts = [.remember .peer m.id true, .dispatch m.id, .handled m (.processed targets)] ∨
        acts = [.remember .peer m.id true, .dispatch m.id, .relay m.id,
          .handled m (.processed targets)]
  | _ => acts = []

theorem Stage.Turns.past {H : Digest} {draw : Draw} {e : Engine} {stage : Stage} {turn : Turn}
    (hturn : stage.Turns H draw e turn) {acts : List Act} (h : stage.Past acts) :
    turn.stage.Past (acts ++ turn.acts.filter Act.isProcessing) := by
  cases hturn with
  | unstamped | malformed | knows | spreads | rests | asksNone | asks =>
      have hacts : acts = [] := h
      exact Or.inl (by simp [hacts, Act.isProcessing])
  | takes =>
      have hacts : acts = [] := h
      simp [hacts, Past, Act.isProcessing]
  | @dispatches kind m stage e' hdispatch =>
      have hacts : acts = [.remember .peer m.id true] := h
      subst hacts
      cases hdispatch <;> rfl
  | @closes kind m =>
      have hacts : acts = [.remember .peer m.id true, .dispatch m.id] := h
      subst hacts
      exact Or.inr ⟨m, _, Or.inl rfl⟩
  | @relaysNone kind m | @relays kind m =>
      have hacts : acts = [.remember .peer m.id true, .dispatch m.id] := h
      subst hacts
      exact Or.inr ⟨m, _, Or.inr rfl⟩
  | _ => simpa [Past, Act.isProcessing] using h

theorem Stage.Past.isPrefix {acts : List Act} {stage : Stage} (h : stage.Past acts) :
    ∃ m targets,
      acts <+: [.remember .peer m.id true, .dispatch m.id, .handled m (.processed targets)] ∨
      acts <+: [.remember .peer m.id true, .dispatch m.id, .relay m.id,
        .handled m (.processed targets)] := by
  cases stage with
  | taken kind m => exact ⟨m, [], Or.inl (h ▸ ⟨_, rfl⟩)⟩
  | noting _ _ m | bounding _ m | replying _ _ m | closing _ m =>
      exact ⟨m, [], Or.inl (h ▸ ⟨_, rfl⟩)⟩
  | ended =>
      rcases h with rfl | ⟨m, targets, rfl | rfl⟩
      · exact ⟨{}, [], Or.inl (List.nil_prefix)⟩
      · exact ⟨m, targets, Or.inl (List.prefix_refl _)⟩
      · exact ⟨m, targets, Or.inr (List.prefix_refl _)⟩
  | _ => exact ⟨{}, [], Or.inl (h ▸ List.nil_prefix)⟩

theorem Stage.Past.countP_le_one {acts : List Act} {stage : Stage} (h : stage.Past acts)
    (x : MessageId) : acts.countP (Act.isDispatchOf x) ≤ 1 ∧ acts.countP (Act.isRelayOf x) ≤ 1 := by
  obtain ⟨m, targets, hp | hp⟩ := h.isPrefix
  all_goals
    have hd := hp.sublist.countP_le (p := Act.isDispatchOf x)
    have hr := hp.sublist.countP_le (p := Act.isRelayOf x)
    simp only [List.countP_cons, List.countP_nil, Act.isDispatchOf, Act.isRelayOf] at hd hr
    constructor <;> grind

theorem Stage.Past.taken_before {before after : List Act} {stage : Stage} {m : Message}
    {targets : List String} (h : stage.Past (before ++ .handled m (.processed targets) :: after)) :
    .remember .peer m.id true ∈ before := by
  obtain ⟨m', targets', hp | hp⟩ := h.isPrefix
  all_goals
    obtain ⟨rest, hrest⟩ := hp
    rcases before with _ | ⟨first, before⟩
    · simp at hrest
    · simp only [List.cons_append, List.cons.injEq] at hrest
      have hm : m.id = m'.id := by
        have : Act.handled m (.processed targets) ∈
            before ++ .handled m (.processed targets) :: after ++ rest := by simp
        rw [hrest.2] at this
        simp at this
        rw [this.1]
      simp [hrest.1, hm]

namespace Pool

-- What holds of a run so far, given all that was done in it.
structure Accounts (capacity : Nat) (trace : Trace) (p : Pool) : Prop where
  capacity_eq : p.engine.cache.capacity = capacity
  holds : p.engine.cache.Holds trace.admitted
  past : ∀ (k : Nat) (call : Call), p.calls[k]? = some call → call.stage.Past (trace.processing k)
  silent : ∀ k, p.calls.length ≤ k → trace.processing k = []

theorem accounts_start (self : String) (settings : Settings) (notes : Queue Note) :
    Accounts (max settings.cacheSize 1) [] (start self settings notes) where
  capacity_eq := rfl
  holds := Cache.empty_holds _
  past k call h := by simp [start] at h
  silent k _ := rfl

theorem Accounts.step {H : Digest} {capacity : Nat} {trace acts : Trace} {p q : Pool}
    (h : Accounts capacity trace p) (hs : Step H p acts q) :
    Accounts capacity (trace ++ acts) q := by
  cases hs with
  | call draw stage hstage =>
      rw [List.append_nil]
      refine ⟨h.capacity_eq, h.holds, ?_, ?_⟩
      · intro k call hk
        rcases Nat.lt_trichotomy k p.calls.length with hlt | rfl | hgt
        · exact h.past k call (by simpa [List.getElem?_append_left hlt] using hk)
        · have hcall : call = ⟨draw, stage⟩ := by simpa using hk.symm
          rw [h.silent _ (Nat.le_refl _), hcall]
          cases hstage <;> rfl
        · rw [List.getElem?_eq_none (by simp; omega)] at hk
          cases hk
      · intro k hk
        simp only [List.length_append, List.length_singleton] at hk
        exact h.silent k (by omega)
  | @turn call turn k hk hturn =>
      have hturns : call.stage.Turns H call.draw p.engine turn := hturn ▸ Stage.turns H _ _ _
      obtain ⟨hcapacity, hholds⟩ := hturns.holds h.holds
      have hpast := hturns.past (h.past k call hk)
      have hlen : k < p.calls.length := (List.getElem?_eq_some_iff.mp hk).1
      refine ⟨hcapacity.trans h.capacity_eq, ?_, ?_, ?_⟩
      · have hadmitted : Trace.admitted (turn.acts.map (k, ·)) = turn.acts.flatMap Act.admits := by
          simp [Trace.admitted, List.flatMap_map]
        rw [Trace.admitted_append, hadmitted]
        exact hholds
      · intro i other hi
        rw [Trace.processing_append, Trace.processing_turn]
        by_cases hik : k = i
        · subst i
          have hother : other = ⟨call.draw, turn.stage⟩ := by
            simpa [hlen] using hi.symm
          simpa [hother] using hpast
        · rw [List.getElem?_set_ne hik] at hi
          simpa [hik] using h.past i other hi
      · intro i hi
        rw [List.length_set] at hi
        rw [Trace.processing_append, Trace.processing_turn, h.silent i hi]
        simp [show k ≠ i by omega]
  | meanwhile e hself hsettings hcache =>
      rw [List.append_nil]
      exact ⟨hcache ▸ h.capacity_eq, hcache ▸ h.holds, h.past, h.silent⟩

theorem accounts_run {H : Digest} {self : String} {settings : Settings} {notes : Queue Note}
    {labels : List Trace} {p : Pool} (run : Run (Step H) (start self settings notes) labels p) :
    Accounts (max settings.cacheSize 1) labels.flatten p := by
  induction run with
  | refl => exact accounts_start self settings notes
  | step _ hs ih =>
      rw [List.flatten_append, List.flatten_singleton]
      exact ih.step hs

theorem Accounts.exists_past {capacity : Nat} {trace : Trace} {p : Pool}
    (h : Accounts capacity trace p) (k : Nat) :
    ∃ stage : Stage, stage.Past (trace.processing k) := by
  cases hk : p.calls[k]? with
  | some call => exact ⟨call.stage, h.past k call hk⟩
  | none => exact ⟨.ended, Or.inl (h.silent k (List.getElem?_eq_none_iff.mp hk))⟩

theorem Accounts.others_between {capacity : Nat} {past between rest : Trace} {p : Pool}
    {x : MessageId} {j k : Nat} {source source' : Source}
    (h : Accounts capacity (past ++ (j, .remember source x true) ::
      (between ++ (k, .remember source' x true) :: rest)) p) :
    capacity ≤ (between.others x).card := by
  have hs := h.holds.spaced
  rw [h.capacity_eq] at hs
  have hplaces :
      Spaced capacity (past.admitted ++ x :: (between.admitted ++ x :: rest.admitted)) := by
    simpa [Trace.admitted, Act.admits] using hs
  exact hplaces.others_between

theorem Accounts.count_le_one {capacity : Nat} {past window rest : Trace} {p : Pool} {x : MessageId}
    (h : Accounts capacity (past ++ window ++ rest) p) (hfew : (window.others x).card < capacity) :
    window.admitted.count x ≤ 1 := by
  have hs := h.holds.spaced
  rw [h.capacity_eq, Trace.admitted_append, Trace.admitted_append] at hs
  exact hs.count_le_one hfew

-- At most one place of `window` lets `x` in, so at most one call has to do with it.
theorem Accounts.countFor_le_one {capacity : Nat} {trace window : Trace} {p : Pool} {x : MessageId}
    {sort : Act → Bool} (h : Accounts capacity trace p) (hone : window.admitted.count x ≤ 1)
    (hsort : ∀ act, sort act = true → act.isProcessing = true)
    (hpast : ∀ acts stage, Stage.Past acts stage → acts.countP sort ≤ 1) :
    trace.countFor x window sort ≤ 1 := by
  have htaker (t : Nat × Act)
      (ht : (sort t.2 && window.any fun w => w.1 = t.1 && w.2.takesIn x) = true) :
      sort t.2 = true ∧ (t.1, .remember .peer x true) ∈ window := by
    simp only [Bool.and_eq_true, List.any_eq_true, decide_eq_true_eq, Act.takesIn_iff] at ht
    obtain ⟨hs, w, hw, hcall, hact⟩ := ht
    exact ⟨hs, by rw [← hcall, ← hact]; exact hw⟩
  by_cases hany : ∃ k, (k, .remember .peer x true) ∈ window
  · obtain ⟨k, hk⟩ := hany
    obtain ⟨stage, hp⟩ := h.exists_past k
    refine Nat.le_trans ?_ (hpast _ _ hp)
    rw [Trace.countP_processing k trace sort hsort]
    apply List.countP_mono_left
    intro t _ ht
    obtain ⟨hs, hw⟩ := htaker t ht
    have he := Trace.eq_of_count_le_one hone hw hk (by simp [Act.admits]) (by simp [Act.admits])
    simp [hs, (Prod.mk.inj he).1]
  · have hzero : trace.countFor x window sort = 0 := by
      rw [Trace.countFor, List.countP_eq_zero]
      exact fun t _ ht => hany ⟨t.1, (htaker t ht).2⟩
    omega

end Pool

-- Two admissions of an id are as many other ids apart as the cache has room for,
-- whatever calls they are made by. While fewer come between, the message is
-- dispatched and relayed once at most, and not at all if it was made here.
theorem processed_at_most_once (H : Digest) (self : String) (settings : Settings)
    (notes : Queue Note)
    {labels : List Trace} {p : Pool} (run : Run (Pool.Step H) (.start self settings notes) labels p)
    (x : MessageId) :
    (∀ before after k m targets, m.id = x →
      labels.flatten = before ++ (k, .handled m (.processed targets)) :: after →
      ∃ early late : Trace, before = early ++ (k, .remember .peer x true) :: late ∧
        ∀ (past between : Trace) j source, early = past ++ (j, .remember source x true) :: between →
          max settings.cacheSize 1 ≤ (between.others x).card) ∧
    ∀ past window rest : Trace, labels.flatten = past ++ window ++ rest →
      (window.others x).card < max settings.cacheSize 1 →
      Trace.countFor labels.flatten x window (Act.isDispatchOf x) ≤ 1 ∧
      Trace.countFor labels.flatten x window (Act.isRelayOf x) ≤ 1 ∧
      ((∃ j, (j, .remember .own x true) ∈ window) → ∀ k, (k, .remember .peer x true) ∉ window) := by
  have h := Pool.accounts_run run
  constructor
  · intro before after k m targets hm htrace
    subst hm
    obtain ⟨stage, hp⟩ := h.exists_past k
    have hmid : Trace.processing k [(k, .handled m (.processed targets))] =
        [.handled m (.processed targets)] := by
      simp [Trace.processing, Act.isProcessing]
    rw [htrace, ← List.singleton_append, Trace.processing_append, Trace.processing_append, hmid] at hp
    have htaken := (Trace.mem_processing.mp hp.taken_before).1
    obtain ⟨early, late, rfl⟩ := List.append_of_mem htaken
    refine ⟨early, late, rfl, ?_⟩
    intro past between j source he
    subst he
    let rest : Trace := late ++ (k, .handled m (.processed targets)) :: after
    have hplaces :
        Pool.Accounts (max settings.cacheSize 1) (past ++ (j, .remember source m.id true) ::
        (between ++ (k, .remember .peer m.id true) :: rest)) p := by
      simpa [htrace, rest] using h
    exact hplaces.others_between
  · intro past window rest htrace hfew
    have hone := Pool.Accounts.count_le_one (htrace ▸ h) hfew
    refine ⟨?_, ?_, ?_⟩
    · exact h.countFor_le_one hone (fun _ => Act.isProcessing_of_isDispatchOf)
        fun acts stage hp => (hp.countP_le_one x).1
    · exact h.countFor_le_one hone (fun _ => Act.isProcessing_of_isRelayOf)
        fun acts stage hp => (hp.countP_le_one x).2
    · rintro ⟨j, hj⟩ k hk
      have := Trace.eq_of_count_le_one hone hj hk (by simp [Act.admits]) (by simp [Act.admits])
      simp at this

-- A message of no interest whose hops are used up.
theorem alone_arrived_unheard (H : Digest) (draw : Draw) (id : MessageId) (e : Engine)
    (hd : e.settings.difficulty = .none) (hi : e.interest = .empty) (hid : id ∉ e.cache.ids) :
    (Stage.arrived { id }).alone H draw 4 e =
      ⟨[.remember .peer id true, .dispatch id, .relay id, .send [],
        .handled { id } (.processed [])], .ended, (e.remember id).2⟩ := by
  have hvalid : Stamp.isValid H e.settings.difficulty { id } = true := by
    rw [hd]
    rfl
  have hnew : (e.remember id).1 = true := Engine.remember_fst_of_notMem hid
  have hinterest : (e.remember id).2.interest.has 0 = false := by
    show e.interest.has 0 = false
    rw [hi]
    rfl
  have harrived : Stage.turn H draw e (.arrived { id }) =
      ⟨[.remember .peer id true], .taken (.data 0) { id }, (e.remember id).2⟩ :=
    Stage.turn_arrived hvalid rfl hnew
  have htaken (e : Engine) (hi : e.interest.has 0 = false) :
      Stage.turn H draw e (.taken (.data 0) { id }) =
        ⟨[.dispatch id], .closing (.data 0) { id }, e⟩ := by
    simp [Stage.turn, Stage.dispatch, hi]
  have hclosing (e : Engine) : Stage.turn H draw e (.closing (.data 0) { id }) =
      ⟨[.relay id, .send [], .handled { id } (.processed [])], .ended, e⟩ := rfl
  have hended (e : Engine) : Stage.turn H draw e .ended = ⟨[], .ended, e⟩ := rfl
  simp only [Stage.alone, harrived, htaken _ hinterest, hclosing, hended]
  rfl

-- A cache with room for one id lets a message in again after one other.
theorem processed_again_after_one_other :
    ∃ labels p, Run (Pool.Step (.ofFunction fun _ => []))
        (.start "a" { cacheSize := 1 } (.empty 0)) labels p ∧
      ∃ past between rest : Trace,
        labels.flatten = past ++ (0, .remember .peer 1 true) ::
          (between ++ (2, .remember .peer 1 true) :: rest) ∧
        (2, .handled { id := 1 } (.processed [])) ∈ rest ∧ max 1 1 ≤ (between.others 1).card := by
  let H : Digest := .ofFunction fun _ => []
  let e : Engine := .start "a" { cacheSize := 1 } (.empty 0)
  let e₁ := (e.remember 1).2
  let e₂ := (e₁.remember 2).2
  have ids₁ : e₁.cache.ids = [1] := Cache.ids_insert_of_notMem List.not_mem_nil
  have new₁ : 2 ∉ e₁.cache.ids := by simp [ids₁]
  have room₁ : e₁.cache.capacity = 1 := Cache.insert_capacity _ _
  have ids₂ : e₂.cache.ids = [2] :=
    (Cache.ids_insert_of_notMem new₁).trans (by rw [ids₁, room₁]; rfl)
  have new₂ : 1 ∉ e₂.cache.ids := by simp [ids₂]
  have turns (id : MessageId) (e : Engine) := alone_arrived_unheard H (.inOrder 0) id e
  have run₀ : Run (Pool.Step H) ⟨e, []⟩ [] ⟨e, []⟩ := .refl
  obtain ⟨_, run₁, h₁⟩ := Pool.run_alone run₀ (.inOrder 0) (.arrived { id := 1 }) 4
  rw [turns 1 e rfl rfl List.not_mem_nil] at run₁ h₁
  obtain ⟨_, run₂, h₂⟩ := Pool.run_alone run₁ (.inOrder 0) (.arrived { id := 2 }) 4
  rw [turns 2 e₁ rfl rfl new₁] at run₂ h₂
  obtain ⟨labels, run, h⟩ := Pool.run_alone run₂ (.inOrder 0) (.arrived { id := 1 }) 4
  rw [turns 1 e₂ rfl rfl new₂] at run h
  let between : Trace :=
    [(0, .dispatch 1), (0, .relay 1), (0, .send []), (0, .handled { id := 1 } (.processed [])),
      (1, .remember .peer 2 true), (1, .dispatch 2), (1, .relay 2), (1, .send []),
      (1, .handled { id := 2 } (.processed []))]
  let rest : Trace := [(2, .dispatch 1), (2, .relay 1), (2, .send [])]
  have htrace : labels.flatten =
      ((0, .remember .peer 1 true) :: between ++ (2, .remember .peer 1 true) :: rest) ++
        (2, .handled { id := 1 } (.processed [])) :: [] := by
    rw [h, h₂, h₁]
    rfl
  obtain ⟨early, late, hsplit, hothers⟩ :=
    (processed_at_most_once H "a" { cacheSize := 1 } (.empty 0) run 1).1 _ _ 2 _ _ rfl htrace
  obtain ⟨rfl, _, _⟩ :=
    (List.append_cons_inj_of_notMem (by simp [between]) (by simp [rest])).mp hsplit
  exact ⟨labels, _, run, [], between, rest ++ [(2, .handled { id := 1 } (.processed []))],
    by simpa using htrace, by simp, hothers [] between 0 .peer rfl⟩

end Rumor.Calls
