import Rumor.Proofs.Engine
import Rumor.Proofs.Message
import Rumor.Proofs.Peers.Merging

-- What becomes of the peers of a node through a message of each kind.
namespace Rumor

-- How the peers `p'` of a node follow from those before, `p`, and the message `m`. A list is
-- read as JSON, and so it is from what another node prints.
structure Message.Changes (m : Message) (p p' : Peers) : Prop where
  kind : ∃ kind, m.kind? = some kind
  data : ∀ datatype, m.kind? = some (.data datatype) → p'.members = p.members
  listRequest : m.kind? = some .listRequest → p'.members = p.members
  join : m.kind? = some .join → ∀ address, m.payload = Utf8.encode address → address ≠ "" →
    address ≠ p.self →
    p'.members = (if address ∈ p.members then p.members else p.members ++ [address]).rtake p.degree
  leave : m.kind? = some .leave → ∀ address, m.payload = Utf8.encode address → address ≠ "" →
    p'.members = p.members.filter (· ≠ address)
  listResponse : m.kind? = some .listResponse → ∀ list, m.addresses = .ok list →
    p'.members = (p.members ++
      (list.filter fun a => (a ≠ "" ∧ a ≠ p.self) ∧ a ∉ p.members).eraseDups).rtake p.degree
  printed : ∀ list, m.payload = (Json.Item.texts list).compact → m.addresses = .ok list
  malformed : m.kind? = some .join ∨ m.kind? = some .leave →
    (∀ address, address ≠ "" → m.payload ≠ Utf8.encode address) → p'.members = p.members
  malformedList : m.kind? = some .listResponse → (∀ list, m.addresses ≠ .ok list) →
    p'.members = p.members
  own : m.kind? = some .join ∨ m.kind? = some .leave → m.payload = Utf8.encode p.self →
    p'.members = p.members
  seeds : p'.seeds = p.seeds
  isSeed : p'.isSeed = p.isSeed
  joined : m.kind? = some .join → ∀ address, m.payload = Utf8.encode address → address ≠ "" →
    address ≠ p.self → address ∉ p.members → 1 ≤ p.degree → address ∈ p'.members

namespace Engine

variable {H : Digest} {draw : Draw} {kind : Kind} {m : Message} {e : Engine} {address : String}

section Handlers

theorem onJoin_of_malformed (hnone : ∀ address, address ≠ "" → m.payload ≠ Utf8.encode address) :
    e.onJoin m = e := by
  obtain ⟨error, herror⟩ := Message.exists_address_error hnone
  simp only [onJoin, herror]

theorem onLeave_of_malformed (hnone : ∀ address, address ≠ "" → m.payload ≠ Utf8.encode address) :
    e.onLeave m = e := by
  obtain ⟨error, herror⟩ := Message.exists_address_error hnone
  simp only [onLeave, herror]

theorem onListResponse_of_malformed (hnone : ∀ list, m.addresses ≠ .ok list) :
    e.onListResponse m = e := by
  unfold onListResponse
  split
  · rfl
  · rename_i list hlist
    exact absurd hlist (hnone list)

theorem onJoin_of_own (hpayload : m.payload = Utf8.encode e.self) : e.onJoin m = e := by
  unfold onJoin
  split
  · rfl
  · rename_i address haddress
    obtain ⟨hother, _⟩ := Message.address_eq_ok_iff.mp haddress
    have hsame : address = e.self := Utf8.encode_inj (hother.symm.trans hpayload)
    rw [if_pos hsame]

variable (hknown : ∀ address, address ∈ e.peers.known ↔ address ∈ e.peers.members)
include hknown

theorem members_onJoin (hpayload : m.payload = Utf8.encode address) (hsome : address ≠ "")
    (hother : address ≠ e.self) : (e.onJoin m).peers.members =
      (if address ∈ e.peers.members then e.peers.members else e.peers.members ++
        [address]).rtake e.peers.degree := by
  have hread : m.address = .ok address := Message.address_eq_ok_iff.mpr ⟨hpayload, hsome⟩
  simp only [onJoin, hread, if_neg hother]
  exact Peers.members_add_bound hknown ⟨hsome, hother⟩

theorem members_onLeave (hpayload : m.payload = Utf8.encode address) (hsome : address ≠ "") :
    (e.onLeave m).peers.members = e.peers.members.filter (· ≠ address) := by
  have hread : m.address = .ok address := Message.address_eq_ok_iff.mpr ⟨hpayload, hsome⟩
  simp only [onLeave, hread]
  exact Peers.members_remove hknown address

-- Nobody is taken out if the node itself is no peer of its own, whatever its name.
theorem members_onLeave_of_own (hself : e.self ∉ e.peers.members)
    (hpayload : m.payload = Utf8.encode e.self) :
    (e.onLeave m).peers.members = e.peers.members := by
  by_cases hempty : e.self = ""
  · have hnone (address : String) (hsome : address ≠ "") : m.payload ≠ Utf8.encode address := by
      intro hother
      exact hsome ((Utf8.encode_inj (hother.symm.trans hpayload)).trans hempty)
    rw [onLeave_of_malformed hnone]
  · rw [members_onLeave hknown hpayload hempty, Peers.filter_ne_of_notMem hself]

theorem members_onListResponse {list : List String} (hlist : m.addresses = .ok list) :
    let new := list.filter fun a => (a ≠ "" ∧ a ≠ e.self) ∧ a ∉ e.peers.members
    (e.onListResponse m).peers.members =
      (e.peers.members ++ new.eraseDups).rtake e.peers.degree := by
  simp only [onListResponse, hlist]
  exact Peers.members_merge_bound hknown list

end Handlers

section Dispatch

theorem peers_dispatch_data (H : Digest) (draw : Draw) (datatype : UInt16) (m : Message)
    (e : Engine) : (e.dispatch H draw (.data datatype) m).2.peers = e.peers := by
  obtain ⟨notes, he⟩ := dispatch_data H draw datatype m e
  rw [he]

theorem peers_dispatch_listRequest (H : Digest) (draw : Draw) (m : Message) (e : Engine) :
    (e.dispatch H draw .listRequest m).2.peers = e.peers := by
  rcases onListRequest_cases H draw m e with he | ⟨sends, he, _⟩
  · rw [dispatch, he]
  · rw [dispatch, he, remember_peers]

theorem exists_ops_of_dispatch (H : Digest) (draw : Draw) (kind : Kind) (m : Message) (e : Engine) :
    ∃ ops, (∀ op ∈ ops, op.isOnMembers = true) ∧
      (e.dispatch H draw kind m).2.peers = e.peers.after ops := by
  have hnone : ∀ op ∈ ([] : List Peers.Op), op.isOnMembers = true := by simp
  obtain ⟨datatype, rfl, _⟩ | ⟨rfl, _⟩ | ⟨ops, hops, h⟩ := dispatch_cases H draw kind m e
  · exact ⟨[], hnone, peers_dispatch_data H draw datatype m e⟩
  · exact ⟨[], hnone, peers_dispatch_listRequest H draw m e⟩
  · exact ⟨ops, hops, by rw [h]⟩

theorem sound_dispatch (draw : Draw) (kind : Kind) (m : Message) (h : e.peers.Sound) :
    (e.dispatch H draw kind m).2.peers.Sound := by
  obtain ⟨ops, _, hpeers⟩ := exists_ops_of_dispatch H draw kind m e
  exact hpeers ▸ h.after ops

theorem seeds_dispatch (H : Digest) (draw : Draw) (kind : Kind) (m : Message) (e : Engine) :
    (e.dispatch H draw kind m).2.peers.seeds = e.peers.seeds ∧
      (e.dispatch H draw kind m).2.peers.isSeed = e.peers.isSeed := by
  obtain ⟨ops, hops, hpeers⟩ := exists_ops_of_dispatch H draw kind m e
  exact hpeers ▸ Peers.after_frame hops

-- One field for each thing that a message can say, from the handler of its kind.
theorem changes_dispatch (draw : Draw) (hkind : m.kind? = some kind)
    (hknown : ∀ address, address ∈ e.peers.known ↔ address ∈ e.peers.members)
    (hself : e.self ∉ e.peers.members) : m.Changes e.peers (e.dispatch H draw kind m).2.peers := by
  have hsame {other : Kind} (h : m.kind? = some other) : other = kind :=
    Option.some.inj (h.symm.trans hkind)
  have hjoin (h : m.kind? = some .join) : (e.dispatch H draw kind m).2 = e.onJoin m := hsame h ▸ rfl
  have hleave (h : m.kind? = some .leave) : (e.dispatch H draw kind m).2 = e.onLeave m :=
    hsame h ▸ rfl
  have hlist (h : m.kind? = some .listResponse) : (e.dispatch H draw kind m).2 =
      e.onListResponse m := hsame h ▸ rfl
  constructor
  case kind => exact ⟨kind, hkind⟩
  case data =>
    intro datatype h
    rw [← hsame h, peers_dispatch_data]
  case listRequest =>
    intro h
    rw [← hsame h, peers_dispatch_listRequest]
  case join =>
    intro h address hpayload hsome hother
    rw [hjoin h]
    exact members_onJoin hknown hpayload hsome hother
  case leave =>
    intro h address hpayload hsome
    rw [hleave h]
    exact members_onLeave hknown hpayload hsome
  case listResponse =>
    intro h list hread
    rw [hlist h]
    exact members_onListResponse hknown hread
  case printed => exact fun list => Message.addresses_of_payload
  case malformed =>
    rintro (h | h) hnone
    · rw [hjoin h, onJoin_of_malformed hnone]
    · rw [hleave h, onLeave_of_malformed hnone]
  case malformedList =>
    intro h hnone
    rw [hlist h, onListResponse_of_malformed hnone]
  case own =>
    rintro (h | h) hpayload
    · rw [hjoin h, onJoin_of_own hpayload]
    · rw [hleave h]
      exact members_onLeave_of_own hknown hself hpayload
  case seeds => exact (seeds_dispatch H draw kind m e).1
  case isSeed => exact (seeds_dispatch H draw kind m e).2
  case joined =>
    intro h address hpayload hsome hother hnew hdegree
    rw [hjoin h, members_onJoin hknown hpayload hsome hother, if_neg hnew]
    exact mem_rtake_concat hdegree _ _

end Dispatch

-- Of the peers it is enough that the set holds those of the list, and that the node itself
-- is none of them.
theorem peers_changed_by_processed (draw : Draw) {targets : List String}
    (hknown : ∀ address, address ∈ e.peers.known ↔ address ∈ e.peers.members)
    (hself : e.self ∉ e.peers.members) (hdone : (e.handle H draw m).outcome = .processed targets) :
    m.Changes e.peers (e.handle H draw m).engine.peers := by
  rcases handle_cases H draw m e with ⟨_, outcome, he, hother⟩ | ⟨kind, _, hkind, _, he⟩
  · rw [he] at hdone
    exact absurd hdone (hother targets)
  · rw [he]
    exact changes_dispatch (e := (e.remember m.id).2) draw hkind hknown hself

section Example

-- Knows as many others as it may.
def crowded : Engine where
  settings := { degree := 2 }
  peers := ⟨"a", 2, ["b", "c"], .ofList ["b", "c"], ["d"], true⟩
  cache := .empty 1000
  interest := .empty
  notes := .empty 1

-- The oldest peer makes room for the one that joins.
theorem peers_changed_by_newcomer :
    let handled := crowded.handle (.ofFunction id) (.inOrder 1) (.join 7 "e" 1)
    handled.outcome = .processed [] ∧ handled.engine.peers.members = ["c", "e"] ∧
      handled.engine.peers.seeds = ["d"] ∧ handled.engine.peers.isSeed = true := by
  intro handled
  have hknown : ∀ address, address ∈ crowded.peers.known ↔ address ∈ crowded.peers.members :=
    fun address => mem_ofList_iff
  have hdone : handled.outcome = .processed [] := by
    have hnew :=
      handle_of_new (H := .ofFunction id) (e := crowded) (m := .join 7 "e" 1) (.inOrder 1) rfl rfl
        List.not_mem_nil
    rw [show handled = _ from hnew]
    rfl
  have hchanged := peers_changed_by_processed (e := crowded) (.inOrder 1) hknown (by decide) hdone
  exact ⟨hdone, hchanged.join rfl "e" rfl (by decide) (by decide), hchanged.seeds, hchanged.isSeed⟩

end Example

end Engine

end Rumor
