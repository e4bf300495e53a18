import Rumor.Proofs.Inbound
import Rumor.Proofs.Overlay
import Rumor.Proofs.Record

namespace Rumor.Engine

variable {H : Digest} {e : Engine} {m : Message} {send : Send}

-- What a node hands to the network for another, on whatever occasion.
inductive HandsOver (H : Digest) (e : Engine) (send : Send) : Prop
  | handle (draw : Draw) (m : Message) (h : send ∈ (e.handle H draw m).sends)
  | originate (draw : Draw) (m : Message) (kind : Kind) (sends : List Send)
      (hkind : m.kind? = some kind)
      (hsends : (e.originate H draw m).1 = .ok sends) (h : send ∈ sends)
  | announceJoin (draw : Draw) (sends : List Send) (hsends : (e.announceJoin H draw).1 = .ok sends)
      (h : send ∈ sends)
  | announceLeave (draw : Draw) (sends : List Send)
      (hsends : (e.announceLeave H draw).1 = .ok sends) (h : send ∈ sends)
  | refresh (draw : Draw) (routes : String → Route) (h : send ∈ (e.refresh H draw routes).sends)

-- A message that can be told what it is about, with work done for it.
structure Presentable (H : Digest) (e : Engine) (m : Message) : Prop where
  kind : ∃ kind, m.kind? = some kind
  valid : Stamp.isValid H e.settings.difficulty m = true

theorem exists_kind_of_isFlooded (h : m.isFlooded = true) : ∃ kind, m.kind? = some kind := by
  cases hkind : m.kind? with
  | some kind => exact ⟨kind, rfl⟩
  | none => simp [Message.isFlooded, hkind] at h

theorem IsCopy.presentable {kind : Kind} (h : IsCopy H e m send) (hkind : m.kind? = some kind) :
    Presentable H e send.message := by
  refine ⟨⟨kind, ?_⟩, h.valid⟩
  rw [Message.kind?, h.kind_eq]
  exact hkind

theorem presentable_of_originate {draw : Draw} {kind : Kind} {sends : List Send}
    (hkind : m.kind? = some kind)
    (hsends : (e.originate H draw m).1 = .ok sends) (h : send ∈ sends) :
    Presentable H e send.message := by
  have hmem : send ∈ (e.originate H draw m).1.toOption.getD [] := by
    rw [hsends]
    exact h
  have hcopy := (isCopy_of_mem_originate hmem).presentable hkind
  exact ⟨hcopy.kind, hcopy.valid⟩

theorem kind?_join {id : MessageId} {address : String} {ttl : Int32} :
    (Message.join id address ttl).kind? = some .join := rfl

theorem kind?_leave {id : MessageId} {address : String} {ttl : Int32} :
    (Message.leave id address ttl).kind? = some .leave := rfl

theorem HandsOver.presentable (h : HandsOver H e send) : Presentable H e send.message := by
  cases h with
  | handle draw m h =>
      obtain ⟨_, ⟨_, hreply⟩ | ⟨hflood, hcopy⟩⟩ := mem_handle_cases h
      · exact ⟨⟨_, hreply.kind?_eq⟩, hreply.valid⟩
      · obtain ⟨kind, hkind⟩ := exists_kind_of_isFlooded hflood
        have hspent : (spend m).kind? = some kind := by simpa [Message.kind?] using hkind
        obtain ⟨hsome, hvalid⟩ := hcopy.presentable hspent
        rw [(handle_frame H draw m e).1] at hvalid
        exact ⟨hsome, hvalid⟩
  | originate draw m kind sends hkind hsends h => exact presentable_of_originate hkind hsends h
  | announceJoin draw sends hsends h => exact presentable_of_originate kind?_join hsends h
  | announceLeave draw sends hsends h => exact presentable_of_originate kind?_leave hsends h
  | refresh draw routes h =>
      obtain ⟨_, hvalid⟩ := mem_refresh h
      exact ⟨⟨_, kind?_of_mem_refresh h⟩, hvalid⟩

theorem Presentable.read (h : Presentable H e m) (hsize : (Record.encode m).length ≤ Record.maxSize)
    {a : Arrival} {timeout : Nat} (hends : a.ends = true) (htime : a.elapsed < timeout)
    (hall : a.all = Record.encode m) : a.message timeout = .ok m := by
  obtain ⟨kind, hkind⟩ := h.kind
  rw [Arrival.message_of_ends hends htime (hall ▸ hsize), hall,
    Record.decode_encode_of_kind hkind hsize]
  rfl

theorem Presentable.outcome (h : Presentable H e m) (draw : Draw) {peer : Engine}
    (hless : peer.settings.difficulty.zeros ≤ e.settings.difficulty.zeros) :
    (peer.handle H draw m).outcome = .duplicate ∨
      ∃ targets, (peer.handle H draw m).outcome = .processed targets := by
  obtain ⟨kind, hkind⟩ := h.kind
  have hvalid := Stamp.isValid_mono hless h.valid
  by_cases hid : m.id ∈ peer.cache.ids
  · rw [handle_of_known draw hvalid hkind hid]
    exact Or.inl rfl
  · rw [handle_of_new draw hvalid hkind hid]
    exact Or.inr ⟨_, rfl⟩

-- Whatever a node hands over arrives as it was, however it is cut on its way,
-- and a peer that asks for no more work takes it in, unless it did so before.
theorem handed_over_is_accepted (h : HandsOver H e send)
    (hsize : (Record.encode send.message).length ≤ Record.maxSize) :
    (∀ (a : Arrival) (timeout : Nat), a.ends = true → a.elapsed < timeout →
      a.all = Record.encode send.message → a.message timeout = .ok send.message) ∧
    ∀ (draw : Draw) (peer : Engine), peer.settings.difficulty.zeros ≤ e.settings.difficulty.zeros →
      (peer.handle H draw send.message).outcome = .duplicate ∨
        ∃ targets, (peer.handle H draw send.message).outcome = .processed targets :=
  ⟨fun _ _ hends htime hall => h.presentable.read hsize hends htime hall,
    fun draw _ hless => h.presentable.outcome draw hless⟩

section Pair

open Overlay (outward)

theorem encode_outward : Record.encode outward.send.message = [7, 18, 1, 97, 32, 2, 40, 1] := by
  have hsender : Utf8.encode "a" = [97] := by decide
  have hhops : Record.word 2 = 2 := rfl
  have hkind : Record.word 0 = 0 := rfl
  have hid : (1 : UInt64).toNat = 1 := rfl
  have hnonce : (0 : UInt64).toNat = 0 := rfl
  simp only [outward, Overlay.rumor, Record.encode, Record.body, Record.varintField,
    Record.bytesField, hsender, hhops, hkind, hid, hnonce]
  simp [Record.key, Record.tag, Record.wireTypeCode, Varint.encode_of_lt]

theorem length_encode_outward : (Record.encode outward.send.message).length ≤ Record.maxSize := by
  rw [encode_outward]
  decide

theorem decode_encode_outward :
    Record.decode (Record.encode outward.send.message) = .ok outward.send.message :=
  Record.decode_encode length_encode_outward

def inTwoPieces : Arrival :=
  ⟨[⟨0, [7, 18, 1]⟩, ⟨3, [97, 32, 2, 40, 1]⟩], true⟩

theorem all_inTwoPieces : inTwoPieces.all = Record.encode outward.send.message :=
  encode_outward.symm

theorem handed_over_is_accepted_for_pair :
    HandsOver (.ofFunction id) (Overlay.pair false) outward.send ∧
      inTwoPieces.message Arrival.defaultTimeout = .ok outward.send.message ∧
        let outcome :=
          ((Overlay.pair true).handle (.ofFunction id) (.inOrder 0) outward.send.message).outcome
        outcome = .duplicate ∨ ∃ targets, outcome = .processed targets := by
  have hsends := congrArg Prod.fst (Overlay.pair_originate (.ofFunction id))
  have h : HandsOver (.ofFunction id) (Overlay.pair false) outward.send :=
    .originate (.inOrder 0) Overlay.rumor (.data 0) _ rfl hsends (List.mem_singleton_self _)
  obtain ⟨hread, hpeer⟩ := handed_over_is_accepted h length_encode_outward
  refine ⟨h, hread inTwoPieces _ rfl (by decide) all_inTwoPieces, ?_⟩
  exact hpeer (.inOrder 0) (Overlay.pair true) (Nat.le_refl _)

end Pair

end Rumor.Engine
