import Rumor.Proofs.Api.Connection
import Rumor.Proofs.Engine.Acceptance
import Rumor.Proofs.Frame
import Rumor.Proofs.Record.Size

namespace Rumor.Api

variable {note : Note} {c : Connection} {b : Bridge} {q : Queue Note}

theorem size_noteFrame (note : Note) : (noteFrame note).size = 8 + note.payload.length :=
  Frame.size_notification note.id.short note.datatype note.payload

theorem exists_encode_noteFrame_iff :
    (∃ bytes, (noteFrame note).encode = .ok bytes) ↔ note.payload.length ≤ 65527 := by
  have hmax : Frame.maxSize = 65535 := rfl
  simp only [Frame.encode_eq_ok_iff, size_noteFrame, exists_and_left, exists_eq, and_true]
  omega

-- A note that fits no frame ends the connection that it waits for.
theorem exists_writeNext (hopen : c.isOpen = true)
    (hwaits : (b.boxes.get? c.name).bind Queue.take? = some (note, q)) :
    ∃ r, c.writeNext? b = some r ∧
      (r.connection.isOpen = true ↔ ∃ bytes, (noteFrame note).encode = .ok bytes) := by
  cases hframe : (noteFrame note).encode with
  | ok bytes => exact ⟨_, Connection.writeNext?_of_encode hwaits hframe, by simp [hopen]⟩
  | error error =>
      exact ⟨_, Connection.writeNext?_of_error hwaits hframe, by simp [Connection.ended_isOpen]⟩

-- What a peer sends reaches the subscribers, and leaves their connections open,
-- unless it is a bare payload that no frame has room for.
theorem notes_fit_unless_bare {bytes : Bytes} {m : Message} (hdecode : Record.decode bytes = .ok m)
    (H : Digest) (draw : Draw) (e : Engine) :
    ∃ new, (e.handle H draw m).engine.notes.items = e.notes.items ++ new ∧ ∀ note ∈ new,
      ((∃ frame, (noteFrame note).encode = .ok frame) ↔ ¬Record.IsBare m) ∧
      ∀ (c : Connection) (b : Bridge) (q : Queue Note), c.isOpen = true →
        (b.boxes.get? c.name).bind Queue.take? = some (note, q) →
        ∃ r, c.writeNext? b = some r ∧ (r.connection.isOpen = true ↔ ¬Record.IsBare m) := by
  obtain ⟨new, hitems, hnew⟩ := Engine.handle_notes H draw m e
  refine ⟨new, hitems, fun note hnote => ?_⟩
  have hfits : (∃ frame, (noteFrame note).encode = .ok frame) ↔ ¬Record.IsBare m := by
    obtain ⟨datatype, _, rfl⟩ := hnew note hnote
    rw [exists_encode_noteFrame_iff]
    constructor
    · intro hshort hbare
      rcases hbare.length with hlength | hlength <;> exact absurd (hlength ▸ hshort) (by decide)
    · intro hbare
      rcases Nat.lt_or_ge m.payload.length 65528 with hshort | hlong
      · exact Nat.le_of_lt_succ hshort
      · exact absurd (Record.isBare_of_decode hdecode hlong) hbare
  refine ⟨hfits, fun c b q hopen hwaits => ?_⟩
  obtain ⟨r, hwrite, hr⟩ := exists_writeNext hopen hwaits
  exact ⟨r, hwrite, hr.trans hfits⟩

section Pair

open Overlay (pair outward pair_handle)

-- A connection that has asked for the lowest datatype.
def subscriber : Reaction :=
  (Connection.start "c").handle 0 (.notify 0 0) (.start "b" 1 1)

theorem subscriber_waits (id : MessageId) (payload : Bytes) :
    ((subscriber.bridge.forward ⟨id, 0, payload⟩).2.boxes.get? subscriber.connection.name).bind Queue.take? =
      some (⟨id, 0, payload⟩, .empty 1) := rfl

theorem notes_fit_for_pair : ∃ frame r, (noteFrame ⟨1, 0, []⟩).encode = .ok frame ∧
    subscriber.connection.writeNext? (subscriber.bridge.forward ⟨1, 0, []⟩).2 = some r ∧
    r.connection.isOpen = true := by
  obtain ⟨new, hitems, hnew⟩ :=
    notes_fit_unless_bare Engine.decode_encode_outward (.ofFunction id) (.inOrder 0) (pair true)
  have hone : [⟨1, 0, []⟩] = new := by
    rw [pair_handle] at hitems
    exact hitems
  obtain ⟨hframe, hwrite⟩ := hnew ⟨1, 0, []⟩ (hone ▸ List.mem_singleton_self _)
  have hbare : ¬Record.IsBare outward.send.message := fun h => absurd h.length (by decide)
  obtain ⟨r, hr, hopen⟩ := hwrite subscriber.connection _ _ rfl (subscriber_waits 1 [])
  obtain ⟨frame, hencode⟩ := hframe.mpr hbare
  exact ⟨frame, r, hencode, hr, hopen.mpr hbare⟩

theorem pair_notes (H : Digest) (payload : Bytes) :
    ((pair true).handle H (.inOrder 0) { payload }).engine.notes.items = [⟨0, 0, payload⟩] := by
  have hkind : ({ payload } : Message).kind? = some (.data 0) := rfl
  rw [Engine.handle_of_new (H := H) (e := pair true) (.inOrder 0) rfl hkind List.not_mem_nil]
  rfl

theorem decode_bare {payload : Bytes} (h : payload.length = 65528) :
    Record.decode (Record.encode { payload }) = .ok { payload } := by
  have hbody : (Record.body { payload }).length = Record.bytesRoom payload.length := by
    rw [Record.length_body]
    exact Nat.zero_add _
  have hroom := Record.bytesRoom_le payload.length
  have hprefix := Varint.length_encode_le_three (n := payload.length) (by omega)
  rw [Varint.framed] at hroom
  refine Record.decode_encode ((Record.length_encode_le_maxSize_iff _).mpr ?_)
  omega

theorem encode_bare {payload : Bytes} (h : payload.length = 65528) :
    (noteFrame ⟨0, 0, payload⟩).encode = .error (.tooLarge 65536 65535) := by
  have hsize : (noteFrame ⟨0, 0, payload⟩).size = 65536 := by
    rw [size_noteFrame, h]
  rw [Frame.encode, hsize]
  rfl

def overlong : Bytes :=
  List.replicate 65528 0

-- A record may be longer than a frame, though not by much.
theorem bare_note_closes :
    Record.decode (Record.encode { payload := overlong }) = .ok { payload := overlong } ∧
    ((pair true).handle (.ofFunction id) (.inOrder 0) { payload := overlong }).engine.notes.items =
      [⟨0, 0, overlong⟩] ∧
    (noteFrame ⟨0, 0, overlong⟩).encode = .error (.tooLarge 65536 65535) ∧
    subscriber.connection.isOpen = true ∧
    ∃ r, subscriber.connection.writeNext? (subscriber.bridge.forward ⟨0, 0, overlong⟩).2 = some r ∧
      r.connection.isOpen = false := by
  have hlength : overlong.length = 65528 := List.length_replicate
  obtain ⟨r, hwrite, hr⟩ := exists_writeNext rfl (subscriber_waits 0 overlong)
  refine ⟨decode_bare hlength, pair_notes _ overlong, encode_bare hlength, rfl, r, hwrite, ?_⟩
  rw [← Bool.not_eq_true, hr, encode_bare hlength]
  simp

end Pair

end Rumor.Api
