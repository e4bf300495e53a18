import Rumor.Proofs.Engine
import Rumor.Proofs.Message
import Rumor.Proofs.Peers.Merging
import Rumor.Proofs.Record.Size

-- How a node learns of the peers of a seed.
namespace Rumor.Engine

variable {H : Digest} {draw : Draw} {kind : Kind} {m : Message} {e : Engine}

-- What becomes of the bytes that a connection brought.
def receive (H : Digest) (draw : Draw) (bytes : Bytes) (e : Engine) : Except WireError Handled :=
  (Record.decode bytes).map fun m => e.handle H draw m

theorem receive_encode (draw : Draw) (e : Engine) (hkind : m.kind? = some kind)
    (hsize : (Record.encode m).length ≤ Record.maxSize) :
    e.receive H draw (Record.encode m) = .ok (e.handle H draw m) := by
  rw [receive, Record.decode_encode_of_kind hkind hsize]
  rfl

theorem seed?_of_only {p : Peers} {address : String} (hsome : p.seeds ≠ [])
    (honly : ∀ seed ∈ p.seeds, seed = address) (pick : Nat) : p.seed? pick = some address := by
  have hlt : pick % p.seeds.length < p.seeds.length := Nat.mod_lt _ (List.length_pos_iff.mpr hsome)
  rw [Peers.seed?, List.getElem?_eq_getElem hlt]
  exact congrArg some (honly _ (List.getElem_mem hlt))

theorem refresh_of_seed {seed : String} (routes : String → Route)
    (hseed : e.peers.seed? draw.pick = some seed)
    (hs : e.stamp H (.listRequest draw.fresh e.self) = .ok m) :
    (e.refresh H draw routes).sends = [⟨seed, m⟩] ∧
      (e.refresh H draw routes).engine = (e.remember draw.fresh).2 := by
  have hstamp : (e.remember draw.fresh).2.stamp H (.listRequest draw.fresh e.self) = .ok m := hs
  have hasked : e.requestList H draw routes seed =
      ⟨((routes seed).send seed m).map fun _ => (), [⟨seed, m⟩], (e.remember draw.fresh).2⟩ := by
    simp only [requestList,
      show (Message.listRequest draw.fresh e.self).id = draw.fresh from rfl, hstamp]
  simp only [refresh, hseed, hasked, and_self]

-- The asker ends up with its own peers and behind them those of the seed that are new to
-- it, less the oldest if they are too many. The seed learns nothing, and nobody else is
-- written to. Peers are sound whatever became of a node, so any peers may be exchanged.
theorem peers_learned_from_seed (asking answering hearing : Draw) (routes : String → Route)
    {a b : Engine}
    {request response : Message} (ha : a.peers.Sound) (hb : b.peers.Sound) (hself : a.self ≠ "")
    (hwork : a.settings.difficulty = b.settings.difficulty) (hsome : a.peers.seeds ≠ [])
    (honly : ∀ seed ∈ a.peers.seeds, seed = b.self) (hids : asking.fresh ≠ answering.fresh)
    (hunheard : asking.fresh ∉ b.cache.ids) (hunanswered : answering.fresh ∉ a.cache.ids)
    (hrequest : a.stamp H (.listRequest asking.fresh a.self) = .ok request)
    (hresponse : b.stamp H (.listResponse answering.fresh b.self b.peers.members) = .ok response)
    (hrequestSize : (Record.encode request).length ≤ Record.maxSize)
    (hresponseSize : (Record.encode response).length ≤ Record.maxSize) :
    let asked := a.refresh H asking routes
    asked.sends = [⟨b.self, request⟩] ∧
      ∃ answered heard, b.receive H answering (Record.encode request) = .ok answered ∧
        answered.sends = [⟨a.self, response⟩] ∧ answered.engine.peers = b.peers ∧
        asked.engine.receive H hearing (Record.encode response) = .ok heard ∧ heard.sends = [] ∧
        heard.engine.peers.members = (a.peers.members ++ b.peers.members.filter fun address =>
          address ∉ a.peers.members ∧ address ≠ a.self).rtake a.peers.degree := by
  intro asked
  obtain ⟨hasked, hafter⟩ :
    asked.sends = [⟨b.self, request⟩] ∧ asked.engine = (a.remember asking.fresh).2 :=
    refresh_of_seed routes (seed?_of_only hsome honly asking.pick) hrequest
  obtain ⟨⟨nonce, rfl⟩, hrequestValid⟩ := stamp_eq_ok hrequest
  obtain ⟨⟨nonce', rfl⟩, hresponseValid⟩ := stamp_eq_ok hresponse
  have hdistinct : a.self ≠ b.self := by
    obtain ⟨seed, hseed⟩ := List.exists_mem_of_ne_nil _ hsome
    have hother := (Peers.isAdmissible_iff.mp (ha.seeds seed hseed)).2
    exact fun hsame => hother ((honly seed hseed).trans hsame.symm)
  have hanswered :=
    handle_listRequest (hwork ▸ hrequestValid) rfl hunheard hself hdistinct hresponse
  have hnew : answering.fresh ∉ (a.remember asking.fresh).2.cache.ids :=
    Cache.notMem_insert hids.symm hunanswered
  have hlearned :=
    handle_listResponse (e := (a.remember asking.fresh).2) hearing (hwork ▸ hresponseValid) rfl hnew
      (Message.addresses_of_payload rfl)
  refine ⟨hasked, _, _, receive_encode answering b rfl hrequestSize, ?_, ?_,
    receive_encode hearing asked.engine rfl hresponseSize, ?_, ?_⟩
  · exact congrArg Handled.sends hanswered
  · exact congrArg (·.engine.peers) hanswered
  · rw [hafter, hlearned]
  · rw [hafter, hlearned]
    exact ha.members_learned hb

section Pair

-- Knows two others and where to ask for more.
def learner : Engine where
  settings := { degree := 4 }
  peers := ⟨"a", 4, ["x", "y"], .ofList ["x", "y"], ["b"], false⟩
  cache := .empty 1000
  interest := .empty
  notes := .empty 1

-- Knows one of those, the one that asks, and others by names that are hard to write.
def teacher : Engine where
  settings := {}
  peers :=
    ⟨"b", 30, ["y", "a", "\"\\\n", "é", "z"], .ofList ["y", "a", "\"\\\n", "é", "z"], [], true⟩
  cache := .empty 1000
  interest := .empty
  notes := .empty 1

theorem peers_learned_from_teacher :
    let asked := learner.refresh (.ofFunction id) (.inOrder 1) fun _ => .connected
    ∃ request response answered heard, asked.sends = [⟨"b", request⟩] ∧
      teacher.receive (.ofFunction id) (.inOrder 2) (Record.encode request) = .ok answered ∧
      answered.sends = [⟨"a", response⟩] ∧
      asked.engine.receive (.ofFunction id) (.inOrder 3) (Record.encode response) = .ok heard ∧
      heard.engine.peers.members = ["y", "\"\\\n", "é", "z"] := by
  let request : Message := { Message.listRequest 1 "a" with nonce := 0 }
  let response : Message := { Message.listResponse 2 "b" teacher.peers.members with nonce := 0 }
  have hlearner : learner.peers.Sound := Peers.sound_ofList (by decide) (by decide) 4 false
  have hteacher : teacher.peers.Sound := Peers.sound_ofList (by decide) (by decide) 30 true
  have hrequest : learner.stamp (.ofFunction id) (.listRequest 1 "a") = .ok request :=
    stamp_of_none rfl _
  have hresponse : teacher.stamp (.ofFunction id) (.listResponse 2 "b" teacher.peers.members) =
      .ok response :=
    stamp_of_none rfl _
  obtain ⟨hasked, answered, heard, hheard, hanswered, _, hreturned, _, hmembers⟩ :=
    peers_learned_from_seed (.inOrder 1) (.inOrder 2) (.inOrder 3)
    (fun _ => .connected) hlearner hteacher
      (by decide) rfl (by decide) (by decide)
      (by decide) List.not_mem_nil List.not_mem_nil hrequest hresponse
      (Record.length_encode_le_maxSize (by decide)) (Record.length_encode_le_maxSize (by decide))
  exact ⟨request, response, answered, heard, hasked, hheard, hanswered, hreturned, hmembers⟩

end Pair

end Rumor.Engine
