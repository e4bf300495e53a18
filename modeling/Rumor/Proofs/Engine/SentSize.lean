import Rumor.Proofs.Api.Connection
import Rumor.Proofs.Engine.Acceptance
import Rumor.Proofs.Frame
import Rumor.Proofs.Record.Size

namespace Rumor.Engine

variable {H : Digest} {draw : Draw} {e : Engine} {m s : Message} {send : Send}

section Room

open Record

-- What this node's address takes up as the sender.
def addressRoom (e : Engine) : Nat :=
  Varint.framed (Utf8.encode e.self).length

-- A message in this node's name, and the fields that it leaves as they were.
theorem length_body_le (h : ∃ nonce, s = { m with sender := e.self, nonce }) :
    (body s).length ≤ numberRoom (word m.kind) + bytesRoom m.payload.length +
      numberRoom (word m.ttl) + numberRoom m.id.toNat + e.addressRoom + 12 := by
  obtain ⟨nonce, rfl⟩ := h
  have hsender := bytesRoom_le (Utf8.encode e.self).length
  have hnonce := numberRoom_le_eleven nonce.toNat_lt
  rw [length_body]
  simp only [addressRoom]
  omega

theorem fits_of_payload (room : Nat) (h : ∃ nonce, s = { m with sender := e.self, nonce })
    (hroom : numberRoom (word m.kind) + numberRoom (word m.ttl) ≤ room)
    (hpayload : m.payload.length + e.addressRoom + 30 + room ≤ maxSize) :
    (encode s).length ≤ maxSize := by
  have hbody := length_body_le h
  have hid := numberRoom_le_eleven m.id.toNat_lt
  have hmax : maxSize = 65536 := rfl
  have hprefix := Varint.length_encode_le_three (n := m.payload.length) (by omega)
  have hbytes := bytesRoom_le m.payload.length
  rw [Varint.framed] at hbytes
  rw [length_encode_le_maxSize_iff]
  omega

theorem announced_fits {fresh : MessageId} {self : String} {datatype : UInt16} {payload : Bytes}
    {ttl : UInt8}
    (h : send ∈
      (e.originate H draw (.data fresh self datatype payload (.ofNat ttl.toNat))).1.toOption.getD [])
    (hpayload : payload.length + e.addressRoom + 37 ≤ maxSize) :
    (encode send.message).length ≤ maxSize := by
  have hdatatype : datatype.toNat < 65536 := datatype.toNat_lt
  have httl : ttl.toNat < 256 := ttl.toNat_lt
  have hkind := numberRoom_le_of_lt (k := 2) (Nat.lt_trans hdatatype (by decide))
  have hhops := numberRoom_le_of_lt (k := 1) (Nat.lt_trans httl (by decide))
  refine fits_of_payload 7 (isCopy_of_mem_originate h).message ?_ hpayload
  rw [Message.data, Kind.code, word_ofNat (by omega), word_ofNat (by omega)]
  omega

theorem listed_fits {fresh : MessageId} (h : IsReply H e fresh m send)
    (hpayload : send.message.payload.length + e.addressRoom + 35 ≤ maxSize) :
    (encode send.message).length ≤ maxSize := by
  obtain ⟨nonce, hm⟩ := h.message
  rw [hm] at hpayload
  have hkind : numberRoom (word Kind.listResponse.code) ≤ 3 := numberRoom_le_of_lt (by decide)
  have hhops : numberRoom (word 1) ≤ 2 := numberRoom_le_of_lt (by decide)
  exact fits_of_payload 5 ⟨nonce, hm⟩ (Nat.add_le_add hkind hhops) hpayload

-- A relay puts in its own sender and nonce, and takes off a hop.
theorem relayed_fits {bytes : Bytes} (hdecode : decode bytes = .ok m)
    (h : IsCopy H e (spend m) send) (hbytes : bytes.length + e.addressRoom + 14 ≤ maxSize) :
    (encode send.message).length ≤ maxSize := by
  obtain ⟨_, _, kind, hsome⟩ := decode_eq_ok_iff.mp hdecode
  have hkind := toNat_toUInt32_of_nonneg (kind_nonneg hsome)
  have httl : word (spend m).ttl ≤ m.ttl.toUInt32.toNat := by
    have hspent := one_le_ttl_iff.mp h.hops
    have hold := spend_ttl_toInt m
    have hnew := word_of_nonneg (n := (spend m).ttl) (by omega)
    have hword := word_of_nonneg (n := m.ttl) (by omega)
    rw [toNat_toUInt32_of_nonneg (by omega)]
    omega
  have hhops := numberRoom_mono httl
  have hleast : numberRoom m.kind.toUInt32.toNat + bytesRoom m.payload.length +
      numberRoom m.ttl.toUInt32.toNat + numberRoom m.id.toNat ≤ least m := by
    simp only [least, fields, List.foldr_cons, List.foldr_nil, leastRoom]
    omega
  have hframed := framed_least_le_of_decode hdecode
  have hprefix := Varint.length_encode_pos (least m)
  have hbody := length_body_le h.message
  simp only [spend_kind, spend_payload, spend_id, ← hkind] at hbody
  have hmax : maxSize = 65536 := rfl
  rw [Varint.framed] at hframed
  rw [length_encode_le_maxSize_iff]
  omega

end Room

-- Nobody looks at the size of what is sent. As long as what it is made from
-- leaves this much room, it is not too long for those who read it.
theorem sends_fit (H : Digest) (draw : Draw) (e : Engine) :
    (∀ (buffer rest payload : Bytes) (ttl reserved : UInt8) (datatype : UInt16) (fresh : MessageId)
        (b b' : Api.Bridge),
      Frame.front buffer = .frame (.announce ttl reserved datatype payload) rest →
      b.announce fresh ttl datatype payload = (.close, b') →
      payload.length + e.addressRoom + 37 ≤ Record.maxSize →
      ∃ m, b'.announces.items = b.announces.items ++ [m] ∧
        ∀ send ∈ (e.originate H draw m).1.toOption.getD [],
          (Record.encode send.message).length ≤ Record.maxSize) ∧
    (∀ (bytes : Bytes) (m : Message), Record.decode bytes = .ok m → m.isFlooded = true →
      bytes.length + e.addressRoom + 14 ≤ Record.maxSize →
      ∀ send ∈ (e.handle H draw m).sends, (Record.encode send.message).length ≤ Record.maxSize) ∧
    ∀ m, m.kind? = some .listRequest → ∀ send ∈ (e.handle H draw m).sends,
      send.message.payload.length + e.addressRoom + 35 ≤ Record.maxSize →
      (Record.encode send.message).length ≤ Record.maxSize := by
  refine ⟨?_, ?_, ?_⟩
  · intro buffer rest payload ttl reserved datatype fresh b b' _ hclose hroom
    exact ⟨_, Api.Bridge.items_of_announce_eq_close hclose, fun send h => announced_fits h hroom⟩
  · intro bytes m hdecode hflood hroom send h
    obtain ⟨_, ⟨hkind, _⟩ | ⟨_, hcopy⟩⟩ := mem_handle_cases h
    · rw [Message.isFlooded, hkind] at hflood
      cases hflood
    · have hself : (e.handle H draw m).engine.addressRoom = e.addressRoom := by
        rw [addressRoom, (handle_frame H draw m e).2, addressRoom]
      exact relayed_fits hdecode hcopy (hself ▸ hroom)
  · intro m hkind send h hroom
    obtain ⟨_, ⟨_, hreply⟩ | ⟨hflood, _⟩⟩ := mem_handle_cases h
    · exact listed_fits hreply hroom
    · rw [Message.isFlooded, hkind] at hflood
      cases hflood

section Pair

open Overlay (pair homeward pair_handle)

theorem addressRoom_pair (i : Bool) : (pair i).addressRoom = 2 := by
  have hlength : (Utf8.encode (pair i).self).length = 1 := by cases i <;> rfl
  rw [addressRoom, hlength, Varint.framed, Varint.encode_of_lt (by decide)]
  rfl

theorem sends_fit_for_pair :
    (∃ b' m, (Api.Bridge.start "a" 1 1).announce 1 2 0 [] = (.close, b') ∧ b'.announces.items = [m] ∧
      ∀ send ∈ ((pair false).originate (.ofFunction id) (.inOrder 0) m).1.toOption.getD [],
        (Record.encode send.message).length ≤ Record.maxSize) ∧
    (Record.encode homeward.send.message).length ≤ Record.maxSize ∧
    ∃ send, ((pair true).handle (.ofFunction id) (.inOrder 0) (.listRequest 1 "a")).sends = [send] ∧
      (Record.encode send.message).length ≤ Record.maxSize := by
  obtain ⟨hannounce, _, _⟩ := sends_fit (.ofFunction id) (.inOrder 0) (pair false)
  obtain ⟨_, hrelay, hlist⟩ := sends_fit (.ofFunction id) (.inOrder 0) (pair true)
  refine ⟨?_, ?_, ?_⟩
  · obtain ⟨m, hitems, hfits⟩ :=
      hannounce [0, 8, 1, 244, 2, 0, 0, 0] [] [] 2 0 0 1 (.start "a" 1 1) _ rfl rfl
        (by rw [addressRoom_pair]; decide)
    exact ⟨_, m, rfl, hitems, hfits⟩
  · have hsends := congrArg Handled.sends (pair_handle (.ofFunction id))
    refine hrelay _ _ decode_encode_outward rfl ?_ homeward.send
      (hsends ▸ List.mem_singleton_self _)
    rw [encode_outward, addressRoom_pair]
    decide
  · have hsends : ((pair true).handle (.ofFunction id) (.inOrder 0) (.listRequest 1 "a")).sends =
        [_] :=
      handle_listRequest_unstamped rfl (by decide) (by decide) (by decide)
    refine ⟨_, hsends, hlist (.listRequest 1 "a") rfl _ (hsends ▸ List.mem_singleton_self _) ?_⟩
    rw [addressRoom_pair]
    decide

-- This many leave no room for a sender.
theorem maxSize_lt_length_encode (hsender : m.sender ≠ "") (hpayload : 65527 ≤ m.payload.length) :
    Record.maxSize < (Record.encode m).length := by
  have hsome : (Utf8.encode m.sender).length ≠ 0 := by
    rwa [ne_eq, List.length_eq_zero_iff, Utf8.encode_eq_nil_iff]
  have hprefix := Varint.three_le_length_encode (n := m.payload.length) (by omega)
  have hlength := Varint.length_encode_pos (Utf8.encode m.sender).length
  apply Nat.lt_of_not_le
  rw [Record.length_encode_le_maxSize_iff, Record.length_body, Record.bytesRoom, if_neg hsome,
    Record.bytesRoom, if_neg (by omega), Varint.framed, Varint.framed]
  omega

def listing (address : String) : Engine :=
  { pair true with peers := ⟨"b", 30, [address], .ofList [address], [], false⟩ }

theorem IsCopy.too_long (h : IsCopy H e m send) (hself : e.self ≠ "")
    (hpayload : 65527 ≤ m.payload.length) :
    Record.maxSize < (Record.encode send.message).length := by
  obtain ⟨nonce, hm⟩ := h.message
  rw [hm]
  exact maxSize_lt_length_encode hself hpayload

theorem exists_too_long_announce {payload : Bytes} (h : payload.length = 65527) :
    ∃ buffer b' m, Frame.front buffer = .frame (.announce 1 0 0 payload) [] ∧
      (Api.Bridge.start "a" 1 1).announce 1 1 0 payload = (.close, b') ∧ b'.announces.items = [m] ∧
      ∃ send ∈ ((pair false).originate (.ofFunction id) (.inOrder 0) m).1.toOption.getD [],
        Record.maxSize < (Record.encode send.message).length := by
  have hsize : (Frame.announce 1 0 0 payload).size ≤ Frame.maxSize := by
    rw [Frame.size_announce, h]
    decide
  let m : Message := .data 1 "a" 0 payload 1
  obtain ⟨send, hmem, _⟩ := exists_originate_to_all (m := m) (.inOrder 0) (Int32.le_refl 1)
    (show (pair false).peers.members.length ≤ _ by decide) (Stamp.isSome_stamp?_none _) "b"
    (List.mem_singleton_self _)
  refine ⟨_, _, m, Frame.front_of_encode (Frame.encode_eq_ok_iff.mpr ⟨hsize, rfl⟩) [], rfl, rfl,
    send, hmem, ?_⟩
  exact (isCopy_of_mem_originate hmem).too_long (show "a" ≠ "" by decide) (Nat.le_of_eq h.symm)

theorem decode_longest {payload : Bytes} (h : payload.length = 65527) :
    Record.decode (Record.encode { payload, ttl := 2 }) = .ok { payload, ttl := 2 } := by
  have hprefix := Varint.length_encode_le_three (n := payload.length) (by omega)
  have hpayload := Record.bytesRoom_le payload.length
  have hhops : Record.numberRoom (Record.word 2) ≤ 2 := Record.numberRoom_le_of_lt (by decide)
  have hnone : Record.numberRoom (Record.word 0) = 0 ∧ Record.numberRoom 0 = 0 ∧
      Record.bytesRoom 0 = 0 :=
    ⟨rfl, rfl, rfl⟩
  have hsender : (Utf8.encode "").length = 0 := rfl
  refine Record.decode_encode ((Record.length_encode_le_maxSize_iff _).mpr ?_)
  rw [Varint.framed] at hpayload
  rw [Record.length_body, hsender]
  simp only [UInt64.toNat_zero]
  omega

theorem exists_too_long_relay {payload : Bytes} (h : payload.length = 65527) :
    ∃ send ∈ ((pair true).handle (.ofFunction id) (.inOrder 0) { payload, ttl := 2 }).sends,
      Record.maxSize < (Record.encode send.message).length := by
  let m : Message := { payload, ttl := 2 }
  have hkind : m.kind? = some (.data 0) := rfl
  have htaken :=
    takesIn_of_new (H := .ofFunction id) (e := pair true) (.inOrder 0) rfl hkind List.not_mem_nil
  obtain ⟨send, hmem, _⟩ := exists_relay_to_all (H := .ofFunction id) (m := m) (.inOrder 0)
    (show isFlooded (.data 0) = true from rfl) (show 1 ≤ (2 - 1 : Int32) by decide)
    (by rw [htaken.peers, htaken.settings]; decide)
    (by rw [htaken.settings]; exact Stamp.isSome_stamp?_none _) "a"
    (by rw [htaken.peers]; decide)
  refine ⟨send, htaken.sends ▸ hmem, (mem_relays hmem).2.too_long ?_ (Nat.le_of_eq h.symm)⟩
  rw [self, htaken.peers]
  decide

theorem exists_too_long_listing {address : String} (h : 65523 ≤ address.toList.length) :
    ∃ send ∈ ((listing address).handle (.ofFunction id) (.inOrder 0) (.listRequest 1 "a")).sends,
      Record.maxSize < (Record.encode send.message).length := by
  have hsends :
      ((listing address).handle (.ofFunction id) (.inOrder 0) (.listRequest 1 "a")).sends = [_] :=
    handle_listRequest_unstamped rfl List.not_mem_nil (by decide) (show "a" ≠ "b" by decide)
  refine ⟨_, hsends ▸ List.mem_singleton_self _,
    maxSize_lt_length_encode (show "b" ≠ "" by decide) ?_⟩
  exact Nat.le_trans (Nat.add_le_add_right h 4) (Json.length_le_length_texts address)

-- As many bytes as a frame has room for.
def longest : Bytes :=
  List.replicate 65527 0

-- An address that a join has room for.
def farAway : String :=
  String.ofList (List.replicate 65523 'x')

-- A full frame, a full record and a long address are all accepted, and what is made
-- from them is too long for those who read it.
theorem sends_too_long :
    (∃ buffer b' m, Frame.front buffer = .frame (.announce 1 0 0 longest) [] ∧
      (Api.Bridge.start "a" 1 1).announce 1 1 0 longest = (.close, b') ∧ b'.announces.items = [m] ∧
      ∃ send ∈ ((pair false).originate (.ofFunction id) (.inOrder 0) m).1.toOption.getD [],
        Record.maxSize < (Record.encode send.message).length) ∧
    (Record.decode (Record.encode { payload := longest, ttl := 2 }) =
        .ok { payload := longest, ttl := 2 } ∧
      ∃ send ∈
          ((pair true).handle (.ofFunction id) (.inOrder 0) { payload := longest, ttl := 2 }).sends,
        Record.maxSize < (Record.encode send.message).length) ∧
    ∃ send ∈ ((listing farAway).handle (.ofFunction id) (.inOrder 0) (.listRequest 1 "a")).sends,
      Record.maxSize < (Record.encode send.message).length := by
  have hlongest : longest.length = 65527 := List.length_replicate
  have hfar : farAway.toList.length = 65523 :=
    (congrArg List.length String.toList_ofList).trans List.length_replicate
  exact ⟨exists_too_long_announce hlongest,
    ⟨decode_longest hlongest, exists_too_long_relay hlongest⟩,
    exists_too_long_listing (Nat.le_of_eq hfar.symm)⟩

end Pair

end Rumor.Engine
