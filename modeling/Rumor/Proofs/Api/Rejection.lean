import Rumor.Api.Client
import Rumor.Proofs.Api.Connection
import Rumor.Proofs.Digits
import Rumor.Proofs.Frame.Grammar

-- What a server writes when it turns a request down, and what it looks like to who expects
-- a frame.
namespace Rumor.Api

namespace Rejection

open Rumor.Frame (Short Wrong headerSize declared)

variable {error : WireError} {b : Bytes} {r : Rejection}

-- The numbers in the texts are sizes of frames and their codes, which have 16 bits.
inductive Narrow : WireError → Prop
  | unknownKind (code : UInt16) : Narrow (.unknownKind code.toNat)
  | tooShort {size : Nat} (h : size ≤ 65535) : Narrow (.tooShort size)
  | wrongSize {size expected : Nat} (h : size ≤ 65535) (h' : expected ≤ 65535) :
      Narrow (.wrongSize size expected)

theorem narrow_of_short (h : Short b error) : Narrow error := by
  cases h with
  | noHeader h => exact .tooShort (Nat.le_trans (Nat.le_of_lt h) (by decide))
  | @cutOff size code rest hb hsize h =>
      have hlt : size.toNat < 65536 := size.toNat_lt
      exact .wrongSize (by omega) (by omega)

theorem narrow_of_wrong (h : Wrong b error) : Narrow error := by
  cases h with
  | noSize hb h => exact .tooShort (Nat.le_trans (Nat.le_of_lt h) (by decide))
  | unknown hb hsize hwhole h => exact .unknownKind _
  | noFields hb hsize hwhole hcode h => exact .tooShort (Nat.le_trans (Nat.le_of_lt h) (by decide))
  | @tooMuch size code rest hb hwhole hcode h =>
      exact .wrongSize (Nat.le_of_lt_succ size.toNat_lt) (by decide)

-- The reasons that there are to turn a request down.
inductive Given : Rejection → Prop
  | reserved {datatype : UInt16} (h : Kind.reserved datatype = true) : Given (.reserved datatype)
  | noReceiver : Given .noReceiver
  | notForServer : Given .notForServer
  | wire {bytes : Bytes} {error : WireError} (h : (Frame.takeLast bytes).error = some error) :
      Given (.wire error)

theorem narrow_of_takeLast (h : (Frame.takeLast b).error = some error) : Narrow error := by
  obtain ⟨bytes, rest, _, _, hstop⟩ := Frame.exists_stop b
  rw [h] at hstop
  rcases hstop.2 with hshort | hwrong
  · exact narrow_of_short hshort
  · exact narrow_of_wrong hwrong

section Text

variable {text more : String} {m n : Nat}

-- A text that begins with a small letter and has at most `n` bytes.
structure Legible (n : Nat) (text : String) : Prop where
  first : 0x61 ≤ (Utf8.encode text).headD 0
  least : 3 ≤ (Utf8.encode text).length
  most : (Utf8.encode text).length ≤ n

theorem Legible.append (h : Legible m text) (hmore : (Utf8.encode more).length ≤ n) :
    Legible (m + n) (text ++ more) := by
  obtain ⟨hfirst, hleast, hmost⟩ := h
  have hlength : (Utf8.encode (text ++ more)).length =
      (Utf8.encode text).length + (Utf8.encode more).length := by
    rw [Utf8.encode_append, List.length_append]
  refine ⟨?_, by omega, by omega⟩
  rw [Utf8.encode_append]
  cases hbytes : Utf8.encode text with
  | nil => simp [hbytes] at hleast
  | cons first rest => simpa [hbytes] using hfirst

theorem Legible.mono (h : Legible m text) (hle : m ≤ n) : Legible n text :=
  ⟨h.first, h.least, Nat.le_trans h.most hle⟩

theorem legible_of_narrow (h : Narrow error) : Legible 60 error.message := by
  cases h with
  | unknownKind code =>
      have hhead : Legible 21 "unknown message type " := ⟨by decide, by decide, by decide⟩
      have hnumber := Decimal.length_encode_le (Nat.le_of_lt_succ code.toNat_lt)
      exact (hhead.append hnumber).mono (by decide)
  | tooShort h =>
      have hhead : Legible 19 "message too short: " := ⟨by decide, by decide, by decide⟩
      have htail : (Utf8.encode " bytes").length ≤ 6 := by decide
      exact ((hhead.append (Decimal.length_encode_le h)).append htail).mono (by decide)
  | wrongSize h h' =>
      have hhead : Legible 29 "wrong message size: declared " := ⟨by decide, by decide, by decide⟩
      have hmiddle : (Utf8.encode ", expected ").length ≤ 11 := by decide
      have hfront := (hhead.append (Decimal.length_encode_le h)).append hmiddle
      exact (hfront.append (Decimal.length_encode_le h')).mono (by decide)

theorem Given.legible (h : r.Given) : Legible 60 r.message := by
  cases h with
  | @reserved datatype h =>
      have hhead : Legible 9 "datatype " := ⟨by decide, by decide, by decide⟩
      have htail : (Utf8.encode " is reserved").length ≤ 12 := by decide
      have hnumber := Decimal.length_encode_le (Nat.le_of_lt_succ datatype.toNat_lt)
      exact ((hhead.append hnumber).append htail).mono (by decide)
  | noReceiver => exact ⟨by decide, by decide, by decide⟩
  | notForServer => exact ⟨by decide, by decide, by decide⟩
  | wire h => exact legible_of_narrow (narrow_of_takeLast h)

end Text

-- Who takes the first two letters for a size waits for more than a line ever has.
theorem Given.short (h : r.Given) : r.line ≠ [] ∧
    ∃ size, declared r.line = some size ∧ r.line.length < size ∧
      Short r.line (.wrongSize size r.line.length) := by
  obtain ⟨hfirst, hleast, hmost⟩ := h.legible
  have hlength : r.line.length = (Utf8.encode r.message).length + 1 := by
    rw [line, List.length_append, List.length_singleton]
  have hwhole : headerSize ≤ r.line.length := by
    rw [hlength]
    exact Nat.succ_le_succ hleast
  obtain ⟨size, code, rest, hline⟩ := Frame.exists_header hwhole
  have hhead : (0x61 : UInt8) ≤ (size >>> 8).toUInt8 := by
    have hletter : 0x61 ≤ r.line.headD 0 := by
      cases hmessage : Utf8.encode r.message with
      | nil => simp [hmessage] at hleast
      | cons first rest => simpa [line, hmessage] using hfirst
    rw [hline] at hletter
    exact hletter
  have hlarge : 0x6100 ≤ size.toNat := by
    have hletter := UInt8.le_iff_toNat_le.mp hhead
    simp [Nat.shiftRight_eq_div_pow] at hletter
    omega
  have hshort : r.line.length < size.toNat := by omega
  have hdeclared : declared r.line = some size.toNat := by rw [hline, Frame.declared_header]
  have hempty : r.line ≠ [] := List.ne_nil_of_length_pos (by omega)
  exact ⟨hempty, size.toNat, hdeclared, hshort,
    .cutOff hline (Nat.le_trans (by decide) hlarge) hshort⟩

end Rejection

namespace Connection

open Rejection (Given)

variable {c : Connection} {b : Bridge} {fresh : MessageId}

-- What a server writes on a connection besides notes.
def IsReply (written : Bytes) : Prop :=
  written = [] ∨ ∃ r : Rejection, r.Given ∧ written = r.line

theorem onFrame_reply {f : Frame} {r : Rejection} (h : (c.onFrame fresh f b).next = .reply r) :
    r.Given := by
  cases f with
  | announce ttl reserved datatype payload =>
      obtain ⟨hreserved, hcase⟩ | ⟨_, _, hcase⟩ | ⟨_, _, hcase⟩ :=
        b.announce_cases fresh ttl datatype payload
      · obtain rfl := Next.reply.inj ((congrArg Prod.fst hcase).symm.trans h)
        exact .reserved hreserved
      · obtain rfl := Next.reply.inj ((congrArg Prod.fst hcase).symm.trans h)
        exact .noReceiver
      · cases (congrArg Prod.fst hcase).symm.trans h
  | notify reserved datatype =>
      cases hreserved : Kind.reserved datatype with
      | true =>
          rw [onFrame_notify_of_reserved hreserved] at h
          obtain rfl := Next.reply.inj h
          exact .reserved hreserved
      | false =>
          rw [onFrame_notify_of_free hreserved] at h
          cases h
  | notification id datatype payload =>
      obtain rfl := Next.reply.inj h
      exact .notForServer
  | validation id reserved => cases h

theorem isReply_handle (f : Frame) : IsReply (c.handle fresh f b).written := by
  rw [handle_written]
  cases hnext : (c.onFrame fresh f b).next with
  | go | close => exact Or.inl rfl
  | reply r => exact Or.inr ⟨r, onFrame_reply hnext, rfl⟩

theorem isReply_handleAll (frames : List Frame) : IsReply (c.handleAll fresh b frames).written := by
  induction frames generalizing c b with
  | nil => exact Or.inl rfl
  | cons f frames ih =>
      rw [handleAll]
      split
      · exact ih
      · exact isReply_handle f

theorem isReply_onTaken {taken : Frame.Taken}
    (h : ∀ error, taken.error = some error → (Rejection.wire error).Given) :
    IsReply (c.onTaken fresh taken b).written := by
  obtain ⟨frames, error, rest⟩ := taken
  have hall : IsReply (c.handleAll fresh b frames).written := isReply_handleAll frames
  cases hopen : (c.handleAll fresh b frames).connection.isOpen with
  | false => exact (onTaken_of_closed hopen error rest).symm ▸ hall
  | true =>
      cases error with
      | none => exact (onTaken_of_open hopen rest).symm ▸ hall
      | some error =>
          rw [onTaken_of_fault hopen]
          exact Or.inr ⟨_, h error rfl, rfl⟩

theorem isReply_receive (bytes : Bytes) : IsReply (c.receive fresh bytes b).written := by
  unfold receive
  split
  · refine isReply_onTaken fun error herror => ?_
    have hlast : (Frame.takeLast (c.buffer ++ bytes)).error = some error := by
      simp only [Frame.takeLast, herror]
    exact .wire hlast
  · exact Or.inl rfl

theorem isReply_finish : IsReply (c.finish fresh b).written := by
  cases hopen : c.isOpen with
  | false => exact Or.inl (by rw [finish, hopen]; rfl)
  | true =>
      rw [finish_written hopen]
      exact isReply_onTaken fun error herror => .wire herror

end Connection

namespace Client

-- A client reads the reason that it was given.
theorem announced_line {r : Rejection} {first last : Char}
    (hfirst : r.message.toList.head? = some first)
    (hlast : r.message.toList.getLast? = some last) (h : Text.isBlank first = false)
    (h' : Text.isBlank last = false) : announced (some r.line) = .error (.rejected r.message) := by
  have hline : r.line = Utf8.encode (r.message ++ "\n") := by
    rw [Utf8.encode_append]
    rfl
  have hmessage : r.message ≠ "" := fun hempty => by simp [hempty] at hfirst
  simp only [announced, hline, Utf8.decode_encode, Text.trim_append_newline hfirst hlast h h']
  rw [if_neg hmessage]

theorem announced_noReceiver : announced (some Rejection.noReceiver.line) =
    .error (.rejected Rejection.noReceiver.message) :=
  announced_line (r := .noReceiver) rfl rfl rfl rfl

theorem announced_reserved (datatype : UInt16) :
    announced (some (Rejection.reserved datatype).line) =
      .error (.rejected (Rejection.reserved datatype).message) := by
  let text := (Rejection.reserved datatype).message
  have htext : text = "datatype " ++ Decimal.ofNat datatype.toNat ++ " is reserved" := rfl
  have hfirst : text.toList.head? = some 'd' := by simp [htext]
  have hlast : text.toList.getLast? = some 'd' := by
    rw [htext, String.toList_append, List.getLast?_append]
    rfl
  exact announced_line hfirst hlast rfl rfl

end Client

end Rumor.Api
