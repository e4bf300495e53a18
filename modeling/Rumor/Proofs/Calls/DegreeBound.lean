import Rumor.Proofs.Calls
import Rumor.Proofs.Peers
import Rumor.Proofs.Utf8

-- Growing the set of peers and bounding it again are apart, so the set may hold too many
-- while calls run side by side. Then one of them is still to bound it.
namespace Rumor.Calls

-- What the adoption of a registry's view does next.
inductive Viewing
  | flagging (view : View)
  | seeding (view : View)
  | merging (view : View)
  | bounding
  | ended

namespace Viewing

def turn (p : Peers) : Viewing → Viewing × Peers
  | .flagging view => (.seeding view, { p with isSeed := view.seeds.contains p.self })
  | .seeding view => (.merging view, p.setSeeds view.seeds)
  | .merging view => (.bounding, (p.merge view.peers).2)
  | .bounding => (.ended, p.bound.2)
  | .ended => (.ended, p)

-- So many turns in a row, with no call in between.
def alone : Nat → Viewing → Peers → Viewing × Peers
  | 0, viewing, p => (viewing, p)
  | turns + 1, viewing, p => alone turns (viewing.turn p).1 (viewing.turn p).2

-- Alone, a view is adopted as a whole.
theorem alone_flagging (view : View) (p : Peers) :
    alone 4 (.flagging view) p = (.ended, (p.apply view).2) := rfl

end Viewing

-- The calls to an engine and the views it takes over, side by side.
structure Crowd where
  engine : Engine
  calls : List Call
  views : List Viewing

-- Whether a call has yet to bound the peers that it may have added to.
def Stage.isBounding : Stage → Bool
  | .bounding _ _ => true
  | _ => false

def Viewing.isBounding : Viewing → Bool
  | .bounding => true
  | _ => false

namespace Crowd

-- Calls are told apart by their place, and so are views.
inductive Step (H : Digest) : Crowd → List (Nat × Act) → Crowd → Prop
  | call {c : Crowd} (draw : Draw) (stage : Stage) (h : stage.Begins) :
      Step H c [] { c with calls := c.calls ++ [⟨draw, stage⟩] }
  | turn {c : Crowd} {call : Call} {turn : Turn} (k : Nat) (h : c.calls[k]? = some call)
      (hturn : call.stage.turn H call.draw c.engine = turn) :
      Step H c (turn.acts.map (k, ·)) ⟨turn.engine, c.calls.set k ⟨call.draw, turn.stage⟩, c.views⟩
  | view {c : Crowd} (view : View) : Step H c [] { c with views := c.views ++ [.flagging view] }
  | viewTurn {c : Crowd} {viewing next : Viewing} {peers : Peers} (k : Nat)
      (h : c.views[k]? = some viewing) (hturn : viewing.turn c.engine.peers = (next, peers)) :
      Step H c [] ⟨{ c.engine with peers }, c.calls, c.views.set k next⟩
  -- Whatever else goes on leaves the peers alone.
  | meanwhile {c : Crowd} (e : Engine) (h : e.peers = c.engine.peers) :
      Step H c [] { c with engine := e }

-- No call is between its growing the set of peers and its bounding it.
structure AtRest (c : Crowd) : Prop where
  calls : ∀ call ∈ c.calls, call.stage.isBounding = false
  views : ∀ viewing ∈ c.views, viewing.isBounding = false

end Crowd

-- What one turn does to the number of peers.
structure Bounded (before after : Peers) (bounding next : Bool) : Prop where
  degree : after.degree = before.degree
  not_grown : next = false → bounding = false → after.size ≤ before.size
  bounded : bounding = true → after.size ≤ before.degree

theorem Bounded.of_size_le {before after : Peers} (h : after.degree = before.degree)
    (hsize : after.size ≤ before.size) (next : Bool) : Bounded before after false next :=
  ⟨h, fun _ _ => hsize, fun h => nomatch h⟩

theorem Bounded.same (p : Peers) (next : Bool) : Bounded p p false next :=
  .of_size_le rfl (Nat.le_refl _) next

theorem Bounded.grows {before after : Peers} (h : after.degree = before.degree) :
    Bounded before after false true :=
  ⟨h, fun h => (nomatch h), fun h => nomatch h⟩

theorem Bounded.bound (p : Peers) (next : Bool) : Bounded p p.bound.2 true next :=
  ⟨p.bound_degree, fun _ h => (nomatch h), fun _ => p.size_bound_le⟩

-- How one turn changes the peers, and whether the call has yet to bound them before it and
-- after it.
inductive Touched (p : Peers) : Bool → Bool → Peers → Prop
  | same (next : Bool) : Touched p false next p
  | add (address : String) : Touched p false true (p.add address).2
  | merge (addresses : List String) : Touched p false true (p.merge addresses).2
  | remove (address : String) (next : Bool) : Touched p false next (p.remove address).2
  | setSeeds (seeds : List String) (next : Bool) : Touched p false next (p.setSeeds seeds)
  | setSeed (isSeed : Bool) (next : Bool) : Touched p false next { p with isSeed }
  | bound (next : Bool) : Touched p true next p.bound.2

-- The set grows only in a turn after which the call is to bound it.
theorem Touched.bounded {p p' : Peers} {bounding next : Bool} (h : Touched p bounding next p') :
    Bounded p p' bounding next := by
  cases h with
  | same => exact .same p next
  | add address => exact .grows (p.add_degree address)
  | merge addresses => exact .grows (p.merge_degree addresses)
  | remove address => exact .of_size_le (p.remove_degree address) (p.size_remove_le address) next
  | setSeeds seeds =>
      apply Bounded.of_size_le
      · rfl
      · exact Nat.le_refl p.size
  | setSeed isSeed =>
      apply Bounded.of_size_le
      · rfl
      · exact Nat.le_refl p.size
  | bound => exact .bound p next

theorem Stage.Turns.touched {H : Digest} {draw : Draw} {e : Engine} {stage : Stage} {turn : Turn}
    (h : stage.Turns H draw e turn) :
    Touched e.peers stage.isBounding turn.stage.isBounding turn.engine.peers := by
  cases h with
  | dispatches hdispatch =>
      cases hdispatch with
      | adds => exact .add _
      | removes => exact .remove _ _
      | merges => exact .merge _
      | _ => exact .same _
  | bounds => exact .bound _
  | _ => exact .same _

theorem Viewing.touched_turn (viewing : Viewing) (p : Peers) :
    Touched p viewing.isBounding (viewing.turn p).1.isBounding (viewing.turn p).2 := by
  cases viewing with
  | flagging view => exact .setSeed _ _
  | seeding view => exact .setSeeds _ _
  | merging view => exact .merge _
  | bounding => exact .bound _
  | ended => exact .same _

-- Other elements of a list than the one that is set stay.
theorem forall_mem_of_set {α : Type} {P : α → Prop} {list : List α} {k : Nat} {old new : α}
    (hk : list[k]? = some old) (hold : P old) (h : ∀ a ∈ list.set k new, P a) :
    ∀ a ∈ list, P a := by
  intro a ha
  obtain ⟨j, hj⟩ := List.getElem?_of_mem ha
  by_cases hkj : k = j
  · subst hkj
    obtain rfl := Option.some_inj.mp (hk.symm.trans hj)
    exact hold
  · exact h a (List.mem_of_getElem? ((List.getElem?_set_ne hkj).trans hj))

theorem Crowd.Step.degree_eq {H : Digest} {c c' : Crowd} {acts : List (Nat × Act)}
    (hs : Step H c acts c') : c'.engine.peers.degree = c.engine.peers.degree := by
  cases hs with
  | call => rfl
  | turn k hk hturn => exact hturn ▸ (Stage.turns H _ _ _).touched.bounded.degree
  | view => rfl
  | @viewTurn viewing _ _ k hk hturn =>
      have h := (viewing.touched_turn c.engine.peers).bounded.degree
      rwa [hturn] at h
  | meanwhile e h => exact congrArg Peers.degree h

-- What holds at rest, one step later: if the step leaves the crowd at rest, then it was
-- at rest before or the step is the one that bounds the set.
theorem Crowd.Step.size_le {H : Digest} {c c' : Crowd} {acts : List (Nat × Act)}
    (hs : Step H c acts c')
    (h : c.AtRest → c.engine.peers.size ≤ c.engine.peers.degree) (hrest : c'.AtRest) :
    c'.engine.peers.size ≤ c.engine.peers.degree := by
  cases hs with
  | call draw stage hbegins =>
      exact h ⟨fun call hcall => hrest.calls call (List.mem_append_left _ hcall), hrest.views⟩
  | @turn call turn k hk hturn =>
      subst hturn
      have hbounded := (call.stage.turns H call.draw c.engine).touched.bounded
      cases hbounding : call.stage.isBounding with
      | true => exact hbounded.bounded hbounding
      | false =>
          have hnext := hrest.calls _ (List.mem_set (List.getElem?_eq_some_iff.mp hk).1 _)
          have hbefore : c.AtRest :=
            ⟨forall_mem_of_set (P := fun call => call.stage.isBounding = false) hk hbounding
              hrest.calls, hrest.views⟩
          exact (hbounded.not_grown hnext hbounding).trans (h hbefore)
  | view view =>
      exact h ⟨hrest.calls,
        fun viewing hviewing => hrest.views viewing (List.mem_append_left _ hviewing)⟩
  | @viewTurn viewing next peers k hk hturn =>
      have hbounded := (viewing.touched_turn c.engine.peers).bounded
      rw [hturn] at hbounded
      cases hbounding : viewing.isBounding with
      | true => exact hbounded.bounded hbounding
      | false =>
          have hnext := hrest.views _ (List.mem_set (List.getElem?_eq_some_iff.mp hk).1 _)
          have hbefore : c.AtRest :=
            ⟨hrest.calls,
              forall_mem_of_set (P := fun viewing => viewing.isBounding = false) hk hbounding
              hrest.views⟩
          exact (hbounded.not_grown hnext hbounding).trans (h hbefore)
  | meanwhile e he =>
      show e.peers.size ≤ _
      rw [he]
      exact h ⟨hrest.calls, hrest.views⟩

theorem Crowd.size_le_of_run {H : Digest} {start c : Crowd} {labels : List (List (Nat × Act))}
    (run : Run (Step H) start labels c)
    (hstart : start.engine.peers.size ≤ start.engine.peers.degree) :
    c.engine.peers.degree = start.engine.peers.degree ∧
      (c.AtRest → c.engine.peers.size ≤ start.engine.peers.degree) := by
  let degree := start.engine.peers.degree
  apply run.invariant (P := fun c => c.engine.peers.degree = degree ∧
    (c.AtRest → c.engine.peers.size ≤ degree))
  · exact ⟨rfl, fun _ => hstart⟩
  · intro c acts c' h hs
    refine ⟨hs.degree_eq.trans h.1, fun hrest => ?_⟩
    have hsize := hs.size_le (fun hbefore => (h.2 hbefore).trans_eq h.1.symm) hrest
    exact hsize.trans_eq h.1

section Whole

variable {H : Digest} {start c : Crowd} {labels : List (List (Nat × Act))}

theorem Crowd.run_turns (run : Run (Step H) start labels c) {k : Nat} {draw : Draw} {stage : Stage}
    (hk : c.calls[k]? = some ⟨draw, stage⟩) (turns : Nat) :
    let last := stage.alone H draw turns c.engine
    ∃ labels',
      Run (Step H) start labels' ⟨last.engine, c.calls.set k ⟨draw, last.stage⟩, c.views⟩ := by
  induction turns generalizing labels c stage with
  | zero =>
      obtain ⟨hlen, hcall⟩ := List.getElem?_eq_some_iff.mp hk
      have hset : c.calls.set k ⟨draw, stage⟩ = c.calls := hcall ▸ List.set_getElem_self hlen
      exact ⟨labels, by simpa only [Stage.alone, hset] using run⟩
  | succ turns ih =>
      have hlen := (List.getElem?_eq_some_iff.mp hk).1
      obtain ⟨labels', hrun⟩ := ih (run.step (.turn k hk rfl)) (List.getElem?_set_self hlen)
      rw [List.set_set] at hrun
      exact ⟨labels', hrun⟩

theorem Crowd.run_viewTurns (run : Run (Step H) start labels c) {k : Nat} {viewing : Viewing}
    (hk : c.views[k]? = some viewing) (turns : Nat) :
    let last := viewing.alone turns c.engine.peers
    ∃ labels',
      Run (Step H) start labels' ⟨{ c.engine with peers := last.2 }, c.calls,
        c.views.set k last.1⟩ := by
  induction turns generalizing labels c viewing with
  | zero =>
      obtain ⟨hlen, hviewing⟩ := List.getElem?_eq_some_iff.mp hk
      have hset : c.views.set k viewing = c.views := hviewing ▸ List.set_getElem_self hlen
      exact ⟨labels, by simpa only [Viewing.alone, hset] using run⟩
  | succ turns ih =>
      have hlen := (List.getElem?_eq_some_iff.mp hk).1
      obtain ⟨labels', hrun⟩ := ih (run.step (.viewTurn k hk rfl)) (List.getElem?_set_self hlen)
      rw [List.set_set] at hrun
      exact ⟨labels', hrun⟩

-- A call that is left alone from its beginning on.
theorem Crowd.run_alone (run : Run (Step H) start labels c) (draw : Draw) {stage : Stage}
    (h : stage.Begins) (turns : Nat) :
    let last := stage.alone H draw turns c.engine
    ∃ labels',
      Run (Step H) start labels' ⟨last.engine, c.calls ++ [⟨draw, last.stage⟩], c.views⟩ := by
  have hnew : (c.calls ++ [⟨draw, stage⟩])[c.calls.length]? = some ⟨draw, stage⟩ := by simp
  simpa using run_turns (run.step (.call draw stage h)) hnew turns

-- A message or a registry's view, from its coming to the end of what it calls for.
inductive Request
  | message (draw : Draw) (m : Message)
  | view (view : View)

def serve (H : Digest) (e : Engine) : Request → Engine
  | .message draw m => (e.handle H draw m).engine
  | .view view => { e with peers := (e.peers.apply view).2 }

-- What is served as a whole is served in turns, and the crowd is at rest again.
theorem Crowd.run_serve (run : Run (Step H) start labels c) (hrest : c.AtRest) (request : Request) :
    ∃ labels' c', Run (Step H) start labels' c' ∧ c'.AtRest ∧
      c'.engine = serve H c.engine request := by
  cases request with
  | message draw m =>
      obtain ⟨labels', hrun⟩ := run_alone run draw (.arrived m) 4
      have hends := Stage.alone_arrived H draw m c.engine
      rw [hends.stage] at hrun
      refine ⟨labels', _, hrun, ⟨fun call hcall => ?_, hrest.views⟩, hends.engine⟩
      rcases List.mem_append.mp hcall with hold | hone
      · exact hrest.calls call hold
      · exact List.mem_singleton.mp hone ▸ rfl
  | view view =>
      have hnew : (c.views ++ [.flagging view])[c.views.length]? = some (.flagging view) := by simp
      obtain ⟨labels', hrun⟩ := run_viewTurns (run.step (.view view)) hnew 4
      simp only [Viewing.alone_flagging, List.set_append_right _ _ (Nat.le_refl _), Nat.sub_self] at hrun
      refine ⟨labels', _, hrun, ⟨hrest.calls, fun viewing hviewing => ?_⟩, rfl⟩
      rcases List.mem_append.mp hviewing with hold | hone
      · exact hrest.views viewing hold
      · exact List.mem_singleton.mp hone ▸ rfl

theorem Crowd.run_serve_all (run : Run (Step H) start labels c) (hrest : c.AtRest)
    (requests : List Request) :
    ∃ labels' c', Run (Step H) start labels' c' ∧ c'.AtRest ∧
      c'.engine = requests.foldl (serve H) c.engine := by
  induction requests generalizing labels c with
  | nil => exact ⟨labels, c, run, hrest, rfl⟩
  | cons request rest ih =>
      obtain ⟨labels₁, c₁, hrun₁, hrest₁, hengine₁⟩ := run_serve run hrest request
      obtain ⟨labels₂, c₂, hrun₂, hrest₂, hengine₂⟩ := ih hrun₁ hrest₁
      exact ⟨labels₂, c₂, hrun₂, hrest₂, hengine₂.trans (hengine₁ ▸ rfl)⟩

end Whole

-- However calls and views overlap, whenever none of them is still to bound the set it
-- holds no more peers than its degree. So it does after requests served one by one.
theorem degree_bound_at_rest (H : Digest) (e : Engine) (h : e.peers.size ≤ e.peers.degree) :
    (∀ labels c, Run (Crowd.Step H) ⟨e, [], []⟩ labels c → c.AtRest →
      c.engine.peers.degree = e.peers.degree ∧ c.engine.peers.size ≤ e.peers.degree) ∧
    ∀ requests : List Request, (requests.foldl (serve H) e).peers.degree = e.peers.degree ∧
      (requests.foldl (serve H) e).peers.size ≤ e.peers.degree := by
  have hruns : ∀ labels c, Run (Crowd.Step H) ⟨e, [], []⟩ labels c → c.AtRest →
      c.engine.peers.degree = e.peers.degree ∧ c.engine.peers.size ≤ e.peers.degree := by
    intro labels c run hrest
    obtain ⟨hdegree, hsize⟩ := Crowd.size_le_of_run run h
    exact ⟨hdegree, hsize hrest⟩
  refine ⟨hruns, fun requests => ?_⟩
  have hnone : Crowd.AtRest ⟨e, [], []⟩ := ⟨by simp, by simp⟩
  obtain ⟨labels, c, run, hrest, hengine⟩ := Crowd.run_serve_all (H := H) .refl hnone requests
  have hlast := hruns labels c run hrest
  rwa [hengine] at hlast

-- A join up to where the set of peers is to be bounded.
theorem alone_arrived_join (H : Digest) (draw : Draw) (id : MessageId) (address : String)
    (e : Engine)
    (hd : e.settings.difficulty = .none) (hid : id ∉ e.cache.ids) (hempty : address ≠ "")
    (hself : address ≠ e.self) :
    (Stage.arrived (.join id address 0)).alone H draw 2 e =
      ⟨[.remember .peer id true, .dispatch id], .bounding .join (.join id address 0),
        { (e.remember id).2 with peers := (e.peers.add address).2 }⟩ := by
  let m : Message := .join id address 0
  have hvalid : Stamp.isValid H e.settings.difficulty m = true := by
    rw [hd]
    rfl
  have hnew : (e.remember m.id).1 = true := Engine.remember_fst_of_notMem hid
  have haddress : m.address = .ok address := by
    simp [m, Message.address, Message.join, Utf8.decode_encode, hempty]
  have harrived : Stage.turn H draw e (.arrived m) =
      ⟨[.remember .peer id true], .taken .join m, (e.remember id).2⟩ :=
    Stage.turn_arrived hvalid rfl hnew
  have htaken : Stage.turn H draw (e.remember id).2 (.taken .join m) =
      ⟨[.dispatch id], .bounding .join m,
      { (e.remember id).2 with peers := (e.peers.add address).2 }⟩ := by
    simp only [Stage.turn, Stage.dispatch, haddress, Engine.remember_self, hself]
    rfl
  simp only [Stage.alone, m, harrived, htaken]
  rfl

-- Two joins at a node with room for one peer: both peers are in the set until one of the
-- joins comes to its end.
theorem overlapping_joins_bounded :
    let H : Digest := .ofFunction fun _ => []
    let e : Engine := .start "a" { degree := 1 } (.empty 0)
    e.peers.size ≤ e.peers.degree ∧
      ∃ early mid late c, Run (Crowd.Step H) ⟨e, [], []⟩ early mid ∧ mid.engine.peers.size = 2 ∧
        Run (Crowd.Step H) mid late c ∧ c.AtRest ∧ c.calls.length = 2 ∧
        c.engine.peers.size ≤ 1 := by
  intro H e
  let d : Draw := .inOrder 0
  let e₁ : Engine := { (e.remember 1).2 with peers := (e.peers.add "b").2 }
  let e₂ : Engine := { (e₁.remember 2).2 with peers := (e₁.peers.add "c").2 }
  have hpeers₁ : e₁.peers = ⟨"a", 1, ["b"], (∅ : Std.ExtHashSet String).insert "b", [], false⟩ := by
    show ((Peers.empty "a" 1).add "b").2 = _
    simp [Peers.add, Peers.insert, Peers.empty, Peers.contains, Peers.isAdmissible]
  have hself₁ : "c" ≠ e₁.self := by simp [Engine.self, hpeers₁]
  have hnew₁ : 2 ∉ e₁.cache.ids := Cache.notMem_insert (by decide) List.not_mem_nil
  have hpeers₂ : e₂.peers.members = ["b", "c"] := by
    show (e₁.peers.add "c").2.members = _
    simp [hpeers₁, Peers.add, Peers.insert, Peers.contains, Peers.isAdmissible]
  have hfirst := alone_arrived_join H d 1 "b" e rfl List.not_mem_nil (by decide) (by decide)
  have hsecond := alone_arrived_join H d 2 "c" e₁ rfl hnew₁ (by decide) hself₁
  have run₀ : Run (Crowd.Step H) ⟨e, [], []⟩ [] ⟨e, [], []⟩ := .refl
  obtain ⟨_, run₁⟩ := Crowd.run_alone run₀ d (.arrived (.join 1 "b" 0)) 2
  rw [hfirst] at run₁
  obtain ⟨early, run₂⟩ := Crowd.run_alone run₁ d (.arrived (.join 2 "c" 0)) 2
  rw [hsecond] at run₂
  have hends (m : Message) (e : Engine) : ((Stage.bounding .join m).alone H d 2 e).stage = .ended :=
    (Stage.alone_closing H d 0 .join m _).stage
  let mid : Crowd :=
    ⟨e₂, [⟨d, .bounding .join (.join 1 "b" 0)⟩, ⟨d, .bounding .join (.join 2 "c" 0)⟩], []⟩
  have run₃ : Run (Crowd.Step H) mid [] mid := .refl
  obtain ⟨_, run₄⟩ := Crowd.run_turns (k := 0) run₃ rfl 2
  rw [hends] at run₄
  obtain ⟨late, run₅⟩ := Crowd.run_turns (k := 1) run₄ rfl 2
  rw [hends] at run₅
  have hroom : e.peers.size ≤ e.peers.degree := Nat.zero_le _
  have hrest (e : Engine) : Crowd.AtRest ⟨e, [⟨d, .ended⟩, ⟨d, .ended⟩], []⟩ :=
    ⟨by simp [Stage.isBounding], by simp⟩
  have hlast := (degree_bound_at_rest H e hroom).1 _ _ (run₂.append run₅) (hrest _)
  exact ⟨hroom, early, mid, late, _, run₂, congrArg List.length hpeers₂, run₅, hrest _,
    rfl, hlast.2⟩

end Rumor.Calls
