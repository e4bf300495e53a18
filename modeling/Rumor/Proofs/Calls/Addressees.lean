import Rumor.Proofs.Calls.DegreeBound
import Rumor.Proofs.Peers.Representation

-- Whom a node writes to. Addresses come in with messages and with views, and are looked at
-- where they come in or where they are written to.
namespace Rumor.Calls

section Turn

variable {H : Digest} {draw : Draw} {stage : Stage} {kind : Kind} {m : Message} {e : Engine}
  {target : String}

-- Whom a call has in mind to write to, other than peers.
def Stage.target? : Stage → Option String
  | .replying _ _ m => some m.sender
  | .asking seed _ => some seed
  | _ => none

-- What one turn writes, and whom the call has in mind after it.
structure Aims (e : Engine) (stage : Stage) (turn : Turn) : Prop where
  sends : ∀ send ∈ turn.acts.flatMap Act.sends, send.target ∈ e.peers.members ∨
    stage.target? = some send.target
  target : ∀ target, turn.stage.target? = some target →
    target ≠ "" ∧ target ≠ e.self ∨ target ∈ e.peers.seeds

theorem Aims.of_sends {turn : Turn} (hstage : turn.stage.target? = none)
    (hsends : ∀ send ∈ turn.acts.flatMap Act.sends, send.target ∈ e.peers.members ∨
      stage.target? = some send.target) :
    Aims e stage turn := by
  refine ⟨hsends, fun target htarget => ?_⟩
  rw [hstage] at htarget
  cases htarget

theorem Aims.silent {turn : Turn} (hstage : turn.stage.target? = none)
    (hacts : turn.acts.flatMap Act.sends = []) : Aims e stage turn := by
  refine .of_sends hstage fun send hsend => ?_
  rw [hacts] at hsend
  cases hsend

theorem Aims.unicast {turn : Turn} (hstage : turn.stage.target? = none)
    (htarget : stage.target? = some target)
    (hacts : turn.acts.flatMap Act.sends = [⟨target, m⟩]) : Aims e stage turn := by
  refine .of_sends hstage fun send hsend => Or.inr ?_
  rw [hacts] at hsend
  obtain rfl := List.mem_singleton.mp hsend
  exact htarget

theorem Aims.gossip {turn : Turn} {sends : List Send} (hstage : turn.stage.target? = none)
    (hgossip : e.gossip H draw m = .ok sends) (hacts : turn.acts.flatMap Act.sends = sends) :
    Aims e stage turn := by
  refine .of_sends hstage fun send hsend => Or.inl ?_
  rw [hacts] at hsend
  exact (Engine.isCopy_of_mem_gossip hgossip hsend).target

-- A turn writes to peers, or to the one that the call has in mind: a sender that can be
-- answered, or a seed. Whoever asks for a list is looked at before the answer is made.
theorem Stage.Turns.aims {turn : Turn} (h : stage.Turns H draw e turn) : Aims e stage turn := by
  cases h with
  | dispatches hdispatch =>
      refine ⟨fun send hsend => (by cases hsend), fun target htarget => Or.inl ?_⟩
      cases hdispatch with
      | replies hsome hother =>
          obtain rfl := Option.some.inj htarget
          exact ⟨hsome, hother⟩
      | _ => cases htarget
  | replies => exact .unicast rfl rfl rfl
  | relays _ hgossip => exact .gossip rfl hgossip (List.append_nil _)
  | spreads m =>
      cases hgossip : e.gossip H draw m with
      | error error => exact .silent rfl (by simp [Act.sends])
      | ok sends => exact .gossip rfl hgossip (by simp [Act.sends])
  | picks routes hseed =>
      refine ⟨fun send hsend => (by cases hsend), fun target htarget => Or.inr ?_⟩
      obtain rfl := Option.some.inj htarget
      exact Peers.mem_seeds_of_seed? hseed
  | asks => exact .unicast rfl rfl rfl
  | _ => exact .silent rfl rfl

end Turn

section Careful

variable {H : Digest} {own : String} {stage : Stage} {e : Engine} {p p' : Peers} {c c' : Crowd}
  {acts : List (Nat × Act)} {bounding next : Bool}

-- An address that belongs to somebody else.
def IsOther (own address : String) : Prop :=
  address ≠ "" ∧ address ≠ own

-- A node that knows of others only.
structure Careful (own : String) (p : Peers) : Prop where
  self_eq : p.self = own
  sound : p.Sound

theorem careful_empty (own : String) (degree : Nat) : Careful own (.empty own degree) :=
  ⟨rfl, Peers.sound_empty own degree⟩

theorem Careful.peer (h : Careful own p) {address : String} (hmem : address ∈ p.members) :
    IsOther own address :=
  h.self_eq ▸ Peers.isAdmissible_iff.mp (h.sound.members address hmem)

theorem Careful.seed (h : Careful own p) {address : String} (hmem : address ∈ p.seeds) :
    IsOther own address :=
  h.self_eq ▸ Peers.isAdmissible_iff.mp (h.sound.seeds address hmem)

theorem Careful.touched (h : Careful own p) (htouched : Touched p bounding next p') :
    Careful own p' := by
  obtain ⟨rfl, hsound⟩ := h
  cases htouched with
  | same => exact ⟨rfl, hsound⟩
  | add address => exact ⟨p.add_self address, hsound.add address⟩
  | merge addresses => exact ⟨p.merge_self addresses, hsound.merge addresses⟩
  | remove address => exact ⟨p.remove_self address, hsound.remove address⟩
  | setSeeds seeds => exact ⟨rfl, hsound.setSeeds seeds⟩
  | setSeed isSeed => exact ⟨rfl, hsound.setSeed isSeed⟩
  | bound => exact ⟨rfl, hsound.bound⟩

-- A call that has nobody but others in mind.
def Stage.IsAimed (own : String) (stage : Stage) : Prop :=
  ∀ target, stage.target? = some target → IsOther own target

theorem Stage.IsAimed.of_none (own : String) (h : stage.target? = none) : stage.IsAimed own := by
  intro target htarget
  rw [h] at htarget
  cases htarget

theorem Careful.sends (h : Careful own e.peers) (haimed : stage.IsAimed own) {draw : Draw}
    {send : Send}
    (hsend : send ∈ (stage.turn H draw e).acts.flatMap Act.sends) : IsOther own send.target := by
  rcases (stage.turns H draw e).aims.sends send hsend with hpeer | htarget
  · exact h.peer hpeer
  · exact haimed _ htarget

theorem Careful.aimed (h : Careful own e.peers) (H : Digest) (draw : Draw) (stage : Stage) :
    (stage.turn H draw e).stage.IsAimed own := by
  intro target htarget
  rcases (stage.turns H draw e).aims.target target htarget with hother | hseed
  · exact h.self_eq ▸ hother
  · exact h.seed hseed

-- One call after the other.
theorem Careful.alone (h : Careful own e.peers) (haimed : stage.IsAimed own) (H : Digest)
    (draw : Draw) (turns : Nat) :
    let last := stage.alone H draw turns e
    Careful own last.engine.peers ∧ ∀ send ∈ last.acts.flatMap Act.sends,
      IsOther own send.target := by
  induction turns generalizing stage e with
  | zero => exact ⟨h, fun send hsend => nomatch hsend⟩
  | succ turns ih =>
      have hnext := h.touched (stage.turns H draw e).touched
      obtain ⟨hlast, hrest⟩ := ih hnext (h.aimed H draw stage)
      refine ⟨hlast, fun send hsend => ?_⟩
      rw [Stage.alone, List.flatMap_append] at hsend
      rcases List.mem_append.mp hsend with hfirst | hlater
      · exact h.sends haimed hfirst
      · exact hrest send hlater

end Careful

section Crowd

variable {H : Digest} {own : String} {c c' : Crowd} {acts : List (Nat × Act)}

-- A step in which no call begins that is told whom to ask for peers.
structure Crowd.OwnStep (H : Digest) (c : Crowd) (acts : List (Nat × Act)) (c' : Crowd) : Prop where
  step : Crowd.Step H c acts c'
  unasked : ∀ draw seed route, c'.calls ≠ c.calls ++ [⟨draw, .asking seed route⟩]

structure Crowd.Careful (own : String) (c : Crowd) : Prop where
  peers : Calls.Careful own c.engine.peers
  calls : ∀ call ∈ c.calls, call.stage.IsAimed own

theorem Crowd.Careful.step (h : c.Careful own) (hs : c.OwnStep H acts c') : c'.Careful own := by
  obtain ⟨hstep, hunasked⟩ := hs
  cases hstep with
  | call draw stage hbegins =>
      refine ⟨h.peers, fun call hcall => ?_⟩
      rcases List.mem_append.mp hcall with hold | hone
      · exact h.calls call hold
      · obtain rfl := List.mem_singleton.mp hone
        cases hbegins with
        | asking seed route => exact absurd rfl (hunasked draw seed route)
        | _ => exact .of_none own rfl
  | @turn call turn k hk hturn =>
      subst hturn
      refine ⟨h.peers.touched (call.stage.turns H call.draw c.engine).touched,
        fun other hother => ?_⟩
      rcases List.mem_or_eq_of_mem_set hother with hold | rfl
      · exact h.calls other hold
      · exact h.peers.aimed H call.draw call.stage
  | view view => exact ⟨h.peers, h.calls⟩
  | @viewTurn viewing next peers k hk hturn =>
      have htouched := viewing.touched_turn c.engine.peers
      rw [hturn] at htouched
      exact ⟨h.peers.touched htouched, h.calls⟩
  | meanwhile e he => exact ⟨he ▸ h.peers, h.calls⟩

theorem Crowd.Careful.sends (h : c.Careful own) (hs : c.OwnStep H acts c') {act : Nat × Act}
    (hact : act ∈ acts) {send : Send} (hsend : send ∈ act.2.sends) : IsOther own send.target := by
  cases hs.step with
  | @turn call turn k hk hturn =>
      subst hturn
      obtain ⟨a, ha, rfl⟩ := List.mem_map.mp hact
      exact h.peers.sends (h.calls call (List.mem_of_getElem? hk))
        (List.mem_flatMap.mpr ⟨a, ha, hsend⟩)
  | _ => cases hact

theorem Crowd.Careful.run {labels : List (List (Nat × Act))}
    (run : Run (Crowd.OwnStep H) c labels c') (h : c.Careful own) :
    c'.Careful own ∧ ∀ acts ∈ labels, ∀ act ∈ acts, ∀ send ∈ act.2.sends,
      IsOther own send.target := by
  induction run with
  | refl => exact ⟨h, fun acts hacts => nomatch hacts⟩
  | step run hs ih =>
      obtain ⟨hlast, hsends⟩ := ih
      refine ⟨hlast.step hs, fun acts hacts => ?_⟩
      rcases List.mem_append.mp hacts with hearly | hone
      · exact hsends acts hearly
      · obtain rfl := List.mem_singleton.mp hone
        exact fun act hact send hsend => hlast.sends hs hact hsend

end Crowd

section Operations

variable {H : Digest} {own : String} {e : Engine}

-- What a node may be made to do, as a whole.
inductive Operation
  | handle (draw : Draw) (m : Message)
  | apply (view : View)
  | originate (draw : Draw) (m : Message)
  | announceJoin (draw : Draw)
  | announceLeave (draw : Draw)
  | refresh (draw : Draw) (routes : String → Route)

def perform (H : Digest) (e : Engine) : Operation → List Send × Engine
  | .handle draw m => ((e.handle H draw m).sends, (e.handle H draw m).engine)
  | .apply view => ([], { e with peers := (e.peers.apply view).2 })
  | .originate draw m => ((e.originate H draw m).1.toOption.getD [], (e.originate H draw m).2)
  | .announceJoin draw => ((e.announceJoin H draw).1.toOption.getD [], (e.announceJoin H draw).2)
  | .announceLeave draw => ((e.announceLeave H draw).1.toOption.getD [], (e.announceLeave H draw).2)
  | .refresh draw routes => ((e.refresh H draw routes).sends, (e.refresh H draw routes).engine)

def performAll (H : Digest) (e : Engine) (operations : List Operation) : Engine :=
  operations.foldl (fun e operation => (perform H e operation).2) e

theorem Careful.originate (h : Careful own e.peers) (H : Digest) (draw : Draw) (m : Message) :
    Careful own (e.originate H draw m).2.peers ∧
      ∀ send ∈ (e.originate H draw m).1.toOption.getD [], IsOther own send.target := by
  have haimed : (Stage.made m).IsAimed own := .of_none own rfl
  obtain ⟨hlast, hsends⟩ := h.alone haimed H draw 2
  obtain ⟨_, hengine, hact⟩ := Stage.alone_made H draw m e
  refine ⟨hengine ▸ hlast, fun send hsend => hsends send ?_⟩
  refine List.mem_flatMap.mpr ⟨_, List.mem_of_getLast? hact, ?_⟩
  cases hresult : (e.originate H draw m).1 with
  | error error => simp [hresult, Except.toOption] at hsend
  | ok sends => simpa [hresult, Act.sends, Except.toOption] using hsend

theorem Careful.perform (h : Careful own e.peers) (H : Digest) (operation : Operation) :
    Careful own (perform H e operation).2.peers ∧
    ∀ send ∈ (perform H e operation).1, IsOther own send.target := by
  cases operation with
  | handle draw m =>
      have haimed : (Stage.arrived m).IsAimed own := .of_none own rfl
      obtain ⟨hlast, hsends⟩ := h.alone haimed H draw 4
      have hends := Stage.alone_arrived H draw m e
      rw [hends.engine] at hlast
      rw [hends.sends] at hsends
      exact ⟨hlast, hsends⟩
  | apply view =>
      have hseeded := (h.touched (.setSeed (view.seeds.contains e.peers.self) true)).touched
        (.setSeeds view.seeds true)
      exact ⟨(hseeded.touched (.merge view.peers)).touched (.bound true),
        fun send hsend => nomatch hsend⟩
  | originate draw m => exact h.originate H draw m
  | announceJoin draw => exact h.originate H draw _
  | announceLeave draw => exact h.originate H draw _
  | refresh draw routes =>
      have haimed : (Stage.refreshing routes).IsAimed own := .of_none own rfl
      obtain ⟨hlast, hsends⟩ := h.alone haimed H draw 2
      obtain ⟨_, hengine, hasked⟩ := Stage.alone_refreshing H draw routes e
      rw [hengine] at hlast
      rw [hasked] at hsends
      exact ⟨hlast, hsends⟩

theorem Careful.performAll (h : Careful own e.peers) (H : Digest) (operations : List Operation) :
    Careful own (performAll H e operations).peers := by
  induction operations generalizing e with
  | nil => exact h
  | cons operation rest ih => exact ih (h.perform H operation).1

end Operations

-- Whatever messages and views have come in, a node writes to somebody, and not to itself,
-- whether calls overlap or one follows the other.
theorem writes_to_others_only (H : Digest) (own : String) (settings : Settings)
    (notes : Queue Note) :
    (∀ labels c, Run (Crowd.OwnStep H) ⟨.start own settings notes, [], []⟩ labels c →
      ∀ acts ∈ labels, ∀ act ∈ acts, ∀ send ∈ act.2.sends, send.target ≠ "" ∧ send.target ≠ own) ∧
    ∀ (before : List Operation) (operation : Operation),
      ∀ send ∈ (perform H (performAll H (.start own settings notes) before) operation).1,
        send.target ≠ "" ∧ send.target ≠ own := by
  have hstart : Careful own (Engine.start own settings notes).peers :=
    careful_empty own settings.degree
  refine ⟨fun labels c run => ?_, fun before operation => ?_⟩
  · have hcrowd : Crowd.Careful own ⟨.start own settings notes, [], []⟩ :=
      ⟨hstart, fun call hcall => nomatch hcall⟩
    exact (hcrowd.run run).2
  · exact ((hstart.performAll H before).perform H operation).2

theorem Crowd.OwnStep.turn {H : Digest} {c : Crowd} {call : Call} {turn : Turn} (k : Nat)
    (h : c.calls[k]? = some call) (hturn : call.stage.turn H call.draw c.engine = turn) :
    c.OwnStep H (turn.acts.map (k, ·)) ⟨turn.engine, c.calls.set k ⟨call.draw, turn.stage⟩,
      c.views⟩ where
  step := .turn k h hturn
  unasked draw seed route he := by simpa using congrArg List.length he

section Lonely

-- Knows nobody.
def lonely : Engine :=
  .start "a" { cacheSize := 4 } (.empty 1)

def answer : Send :=
  ⟨"b", { Message.listResponse 6 "a" [] with nonce := 0 }⟩

theorem exists_run_that_answers (H : Digest) :
    ∃ labels c, Run (Crowd.OwnStep H) ⟨lonely, [], []⟩ labels c ∧
      [(0, .remember .own 6 true), (0, .send [answer])] ∈ labels := by
  let draw : Draw := .inOrder 6
  let m : Message := .listRequest 3 "b"
  let reply : Message := .listResponse 6 "a" []
  let e : Engine := (lonely.remember 3).2
  have hvalid : Stamp.isValid H lonely.settings.difficulty m = true := rfl
  have hnew : (lonely.remember m.id).1 = true := Engine.remember_fst_of_notMem List.not_mem_nil
  have hr' : e.remember reply.id = (true, (e.remember 6).2) :=
    Engine.remember_of_notMem (Cache.notMem_insert (by decide) List.not_mem_nil)
  have harrived : Stage.turn H draw lonely (.arrived m) =
      ⟨[.remember .peer 3 true], .taken .listRequest m, e⟩ :=
    Stage.turn_arrived hvalid rfl hnew
  have htaken : Stage.turn H draw e (.taken .listRequest m) =
      ⟨[.dispatch 3], .replying reply .listRequest m, e⟩ := rfl
  have hreplying : Stage.turn H draw e (.replying reply .listRequest m) =
      ⟨[.remember .own 6 true, .send [answer]], .closing .listRequest m, (e.remember 6).2⟩ := by
    have hs : (e.remember 6).2.stamp H reply = .ok answer.message := Engine.stamp_of_none rfl reply
    simp only [Stage.turn, hr', hs]
    rfl
  have hbegin : Crowd.OwnStep H ⟨lonely, [], []⟩ [] ⟨lonely, [⟨draw, .arrived m⟩], []⟩ :=
    ⟨.call draw _ (.arrived m), by simp⟩
  have run := (((Run.refl.step hbegin).step (.turn 0 rfl harrived)).step (.turn 0 rfl htaken)).step
    (.turn 0 rfl hreplying)
  exact ⟨_, _, run, List.mem_append_right _ (List.mem_singleton_self _)⟩

-- Two ask for a list in the name of nobody and in that of the node itself, and get none. A
-- third is answered.
theorem writes_to_b_only :
    let H : Digest := .ofFunction id
    let hostile : List Operation :=
      [.handle (.inOrder 4) (.listRequest 1 ""), .handle (.inOrder 5) (.listRequest 2 "a")]
    let honest : Operation := .handle (.inOrder 6) (.listRequest 3 "b")
    (∃ labels c, Run (Crowd.OwnStep H) ⟨lonely, [], []⟩ labels c ∧ ∃ acts ∈ labels, ∃ act ∈ acts,
      answer ∈ act.2.sends ∧ answer.target ≠ "" ∧ answer.target ≠ "a") ∧
    hostile.map (fun operation => (perform H lonely operation).1) = [[], []] ∧
    answer ∈ (perform H (performAll H lonely hostile) honest).1 ∧
      answer.target ≠ "" ∧ answer.target ≠ "a" := by
  intro H hostile honest
  obtain ⟨hruns, hperform⟩ := writes_to_others_only H "a" { cacheSize := 4 } (.empty 1)
  let e₁ : Engine := (lonely.remember 1).2
  have hnew₁ : 2 ∉ e₁.cache.ids := Cache.notMem_insert (by decide) List.not_mem_nil
  have hfirst : lonely.handle H (.inOrder 4) (.listRequest 1 "") = ⟨.processed [], [], e₁⟩ :=
    Engine.handle_listRequest_unanswered _ rfl rfl List.not_mem_nil (Or.inl rfl)
  have hsecond : lonely.handle H (.inOrder 5) (.listRequest 2 "a") =
      ⟨.processed [], [], (lonely.remember 2).2⟩ :=
    Engine.handle_listRequest_unanswered _ rfl rfl List.not_mem_nil (Or.inr rfl)
  have hboth : performAll H lonely hostile = (e₁.remember 2).2 := by
    have hthen : e₁.handle H (.inOrder 5) (.listRequest 2 "a") =
        ⟨.processed [], [], (e₁.remember 2).2⟩ :=
      Engine.handle_listRequest_unanswered _ rfl rfl hnew₁ (Or.inr rfl)
    simp only [performAll, hostile, List.foldl_cons, List.foldl_nil, perform, hfirst, hthen]
  have hnew₂ : 3 ∉ (e₁.remember 2).2.cache.ids :=
    Cache.notMem_insert (by decide) (Cache.notMem_insert (by decide) List.not_mem_nil)
  refine ⟨?_, by simp only [hostile, List.map_cons, List.map_nil, perform, hfirst, hsecond], ?_⟩
  · obtain ⟨labels, c, run, hmem⟩ := exists_run_that_answers H
    have hact : (0, Act.send [answer]) ∈ [(0, .remember .own 6 true), (0, .send [answer])] :=
      List.mem_cons_of_mem _ (List.mem_singleton_self _)
    have hanswer : answer ∈ (Act.send [answer]).sends := List.mem_singleton_self answer
    exact ⟨labels, c, run, _, hmem, _, hact, hanswer, hruns labels c run _ hmem _ hact _ hanswer⟩
  · have hsends : ((performAll H lonely hostile).handle H (.inOrder 6) (.listRequest 3 "b")).sends =
        [answer] :=
      hboth ▸ Engine.handle_listRequest_unstamped rfl hnew₂ (by decide) (by decide)
    have hanswer : answer ∈ (perform H (performAll H lonely hostile) honest).1 := by
      rw [perform, hsends]
      exact List.mem_singleton_self answer
    exact ⟨hanswer, hperform hostile _ _ hanswer⟩

end Lonely

end Rumor.Calls
