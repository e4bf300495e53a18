import Rumor.Api.Connection
import Rumor.Proofs.Queue

namespace Rumor.Api

-- What is written before a connection closes.
def Next.line : Next → Bytes
  | .reply r => r.line
  | _ => []

namespace Bridge

variable {b b' : Bridge} {fresh : MessageId} {ttl : UInt8} {datatype : UInt16} {payload : Bytes}

-- An announce goes to the end of the queue, or it is turned down and changes nothing.
theorem announce_cases (b : Bridge) (fresh : MessageId) (ttl : UInt8) (datatype : UInt16)
    (payload : Bytes) :
    Kind.reserved datatype = true ∧
      b.announce fresh ttl datatype payload = (.reply (.reserved datatype), b) ∨
    Kind.reserved datatype = false ∧ b.announces.hasRoom = false ∧
      b.announce fresh ttl datatype payload = (.reply .noReceiver, b) ∨
    Kind.reserved datatype = false ∧ b.announces.hasRoom = true ∧
      b.announce fresh ttl datatype payload = (.close, { b with announces := { b.announces with
        items := b.announces.items ++
          [.data fresh b.self datatype payload (.ofNat ttl.toNat)] } }) := by
  by_cases hreserved : Kind.reserved datatype = true
  · exact Or.inl ⟨hreserved, by rw [announce, if_pos hreserved]⟩
  · have hfree := Bool.eq_false_iff.mpr hreserved
    cases hroom : b.announces.hasRoom with
    | true =>
        refine Or.inr (Or.inr ⟨hfree, rfl, ?_⟩)
        simp only [announce, hfree, Queue.offer_of_hasRoom hroom]
        rfl
    | false =>
        obtain ⟨hrefused, _⟩ := Queue.offer_of_not_hasRoom hroom
          (Message.data fresh b.self datatype payload (.ofNat ttl.toNat))
        refine Or.inr (Or.inl ⟨hfree, rfl, ?_⟩)
        rw [announce, if_neg hreserved]
        dsimp only
        split
        · rename_i announces htaken
          exact absurd (congrArg Prod.fst htaken) hrefused
        · rfl

theorem items_of_announce_eq_close (h : b.announce fresh ttl datatype payload = (.close, b')) :
    b'.announces.items =
      b.announces.items ++ [Message.data fresh b.self datatype payload (.ofNat ttl.toNat)] := by
  obtain ⟨_, hcase⟩ | ⟨_, _, hcase⟩ | ⟨_, _, hcase⟩ := announce_cases b fresh ttl datatype payload
  · cases hcase.symm.trans h
  · cases hcase.symm.trans h
  · obtain rfl := (Prod.mk.inj (hcase.symm.trans h)).2
    rfl

end Bridge

namespace Connection

variable {c : Connection} {b : Bridge} {fresh : MessageId} {f : Frame}

section OnFrame

variable {datatype : UInt16}

theorem onFrame_announce {ttl : UInt8} {payload : Bytes} {next : Next} {b' : Bridge}
    (h : b.announce fresh ttl datatype payload = (next, b')) (reserved : UInt8) :
    c.onFrame fresh (.announce ttl reserved datatype payload) b = ⟨next, c, b'⟩ := by
  simp only [onFrame, h]

theorem onFrame_notify_of_reserved (h : Kind.reserved datatype = true) (reserved : UInt16) :
    c.onFrame fresh (.notify reserved datatype) b = ⟨.reply (.reserved datatype), c, b⟩ :=
  if_pos h

theorem onFrame_notify_of_free (h : Kind.reserved datatype = false) (reserved : UInt16) :
    c.onFrame fresh (.notify reserved datatype) b =
      ⟨.go, { c with subscribed := true }, { b with
        interest := b.interest.subscribe c.name datatype c.name
        boxes := b.boxes.ensure c.name b.noteQueue }⟩ :=
  if_neg (Bool.eq_false_iff.mp h)

-- Frames are acted on without a look at the buffer.
theorem onFrame_buffer (buffer : Bytes) :
    ({ c with buffer } : Connection).onFrame fresh f b =
      ⟨(c.onFrame fresh f b).next, { (c.onFrame fresh f b).connection with buffer },
        (c.onFrame fresh f b).bridge⟩ := by
  cases f with
  | notify reserved datatype =>
      cases h : Kind.reserved datatype with
      | true => rw [onFrame_notify_of_reserved h, onFrame_notify_of_reserved h]
      | false => rw [onFrame_notify_of_free h, onFrame_notify_of_free h]
  | _ => rfl

theorem onFrame_isOpen : (c.onFrame fresh f b).connection.isOpen = c.isOpen := by
  cases f with
  | notify reserved datatype =>
      cases h : Kind.reserved datatype with
      | true => rw [onFrame_notify_of_reserved h]
      | false => rw [onFrame_notify_of_free h]
  | _ => rfl

end OnFrame

section Close

theorem close_eq (c : Connection) (b : Bridge) :
    c.close b = ({ c with buffer := [], subscribed := false, isOpen := false }, { b with
      interest := if c.subscribed then (b.interest.unsubscribe c.name).2 else b.interest
      boxes := if c.subscribed then b.boxes.erase c.name else b.boxes }) := by
  unfold close
  cases h : c.subscribed <;> rfl

theorem ended_isOpen (written : Bytes) (c : Connection) (b : Bridge) :
    (c.ended written b).connection.isOpen = false := by
  rw [ended, close_eq]

theorem ended_buffer (written buffer : Bytes) (isOpen : Bool) :
    ({ c with buffer, isOpen } : Connection).ended written b = c.ended written b := by
  simp only [ended, close_eq]

end Close

section Frames

variable {frames : List Frame}

theorem handle_written : (c.handle fresh f b).written = (c.onFrame fresh f b).next.line := by
  simp only [handle]
  cases (c.onFrame fresh f b).next <;> rfl

theorem handleAll_of_go (h : (c.onFrame fresh f b).next = .go) (hopen : c.isOpen = true) :
    c.handleAll fresh b (f :: frames) =
      (c.onFrame fresh f b).connection.handleAll fresh (c.onFrame fresh f b).bridge frames := by
  simp only [handleAll, handle, h, onFrame_isOpen, hopen, if_true]

theorem handleAll_of_stop (h : (c.onFrame fresh f b).next ≠ .go) :
    c.handleAll fresh b (f :: frames) =
      (c.onFrame fresh f b).connection.ended (c.onFrame fresh f b).next.line
        (c.onFrame fresh f b).bridge := by
  cases hnext : (c.onFrame fresh f b).next with
  | go => exact absurd hnext h
  | close | reply r => simp [handleAll, handle, hnext, ended_isOpen, Next.line]

theorem handleAll_written (h : (c.handleAll fresh b frames).connection.isOpen = true) :
    (c.handleAll fresh b frames).written = [] := by
  induction frames generalizing c b with
  | nil => rfl
  | cons f frames ih =>
      rw [handleAll] at h ⊢
      split at h
      · rename_i hopen
        rw [if_pos hopen]
        exact ih h
      · rename_i hclosed
        exact absurd h hclosed

theorem onTaken_of_closed (h : (c.handleAll fresh b frames).connection.isOpen = false)
    (error : Option WireError) (rest : Bytes) :
    c.onTaken fresh ⟨frames, error, rest⟩ b = c.handleAll fresh b frames := by
  simp [onTaken, h]

theorem onTaken_of_fault (h : (c.handleAll fresh b frames).connection.isOpen = true)
    (error : WireError) (rest : Bytes) :
    let r := c.handleAll fresh b frames
    c.onTaken fresh ⟨frames, some error, rest⟩ b =
      r.connection.ended (Rejection.wire error).line r.bridge := by
  simp [onTaken, h]

theorem onTaken_of_open (h : (c.handleAll fresh b frames).connection.isOpen = true)
    (rest : Bytes) :
    let r := c.handleAll fresh b frames
    c.onTaken fresh ⟨frames, none, rest⟩ b =
      { r with connection := { r.connection with buffer := rest } } := by
  simp [onTaken, h]

theorem onTaken_isOpen (error : WireError) (rest : Bytes) :
    (c.onTaken fresh ⟨frames, some error, rest⟩ b).connection.isOpen = false := by
  cases hopen : (c.handleAll fresh b frames).connection.isOpen with
  | false => rw [onTaken_of_closed hopen, hopen]
  | true => rw [onTaken_of_fault hopen, ended_isOpen]

theorem finish_isOpen (fresh : MessageId) (c : Connection) (b : Bridge) :
    (c.finish fresh b).connection.isOpen = false := by
  unfold finish
  split
  · dsimp only
    split
    · exact ended_isOpen _ _ _
    · rename_i hclosed
      exact Bool.eq_false_iff.mpr hclosed
  · rename_i hclosed
    exact Bool.eq_false_iff.mpr hclosed

theorem finish_written (hopen : c.isOpen = true) :
    (c.finish fresh b).written = (c.onTaken fresh (Frame.takeLast c.buffer) b).written := by
  rw [finish, if_pos hopen]
  dsimp only
  split <;> rfl

end Frames

section Notes

variable {note : Note} {q : Queue Note} {r : Reaction}

theorem writeNext?_of_encode {bytes : Bytes}
    (hwaits : (b.boxes.get? c.name).bind Queue.take? = some (note, q))
    (hfits : (noteFrame note).encode = .ok bytes) :
    c.writeNext? b = some ⟨bytes, c, { b with boxes := b.boxes.set c.name q }⟩ := by
  simp only [writeNext?, hwaits, hfits]

theorem writeNext?_of_error {error : WireError}
    (hwaits : (b.boxes.get? c.name).bind Queue.take? = some (note, q))
    (hlong : (noteFrame note).encode = .error error) :
    c.writeNext? b = some (c.ended [] { b with boxes := b.boxes.set c.name q }) := by
  simp only [writeNext?, hwaits, hlong]

theorem exists_waits_of_writeNext? (h : c.writeNext? b = some r) :
    ∃ note q, (b.boxes.get? c.name).bind Queue.take? = some (note, q) := by
  cases hwaits : (b.boxes.get? c.name).bind Queue.take? with
  | none => simp [writeNext?, hwaits] at h
  | some next => exact ⟨next.1, next.2, rfl⟩

end Notes

end Connection

end Rumor.Api
