import Rumor.Api.Client
import Rumor.Proofs.Api.Rejection
import Rumor.Proofs.Frame.Stream

-- What a subscriber is told who asks for one note after the other, while the bytes that
-- the server sends come in piece by piece.
namespace Rumor.Api.Client

open Rumor.Frame (Front Written front lastFront takeLast)

inductive Answer
  | note (received : Received)
  | failed (error : NodeError)
  | over
deriving DecidableEq, Repr

def Answer.ofFrame : Frame → Answer
  | .notification id datatype payload => .note ⟨id, datatype, payload⟩
  | f => .failed (.rejected s!"unexpected frame type {Decimal.ofNat f.code.toNat}")

def Answer.ofFront : Option Front → Answer
  | some (.frame f _) => .ofFrame f
  | some (.fault error _) => .failed (.wire error)
  | _ => .over

-- What comes behind the notes.
def Answer.ofStop : Option NodeError → Answer
  | some error => .failed error
  | none => .over

-- Where a subscriber stands. It holds bytes that it has not yet understood, and `pieces`
-- are still to come. Only while it is framing does it look at those bytes before more come.
inductive Listener
  | reading (buffer : Bytes) (pieces : List Bytes)
  | framing (buffer : Bytes) (pieces : List Bytes)
  | ending (buffer : Bytes)
  | ended
  | failed (rest : Listener)

namespace Listener

def start (pieces : List Bytes) : Listener :=
  .reading [] pieces

def finish (buffer : Bytes) : Answer × Listener :=
  match lastFront buffer with
  | some (.frame f rest) => (.ofFrame f, .ending rest)
  | some (.fault error _) => (.failed (.wire error), .failed .ended)
  | _ => (.over, .ended)

-- What the buffer starts with, if that is settled.
def look (buffer : Bytes) (pieces : List Bytes) (otherwise : Answer × Listener) :
    Answer × Listener :=
  match front buffer with
  | .frame f rest => (.ofFrame f, .framing rest pieces)
  | .fault error rest => (.failed (.wire error), .failed (.reading rest pieces))
  | .incomplete => otherwise

def read (buffer : Bytes) : List Bytes → Answer × Listener
  | [] => finish buffer
  | piece :: more => look (buffer ++ piece) more (read (buffer ++ piece) more)

-- Who asks again after a failure is told the end once, and may then go on.
def next : Listener → Answer × Listener
  | .reading buffer pieces => read buffer pieces
  | .framing buffer pieces => look buffer pieces (read buffer pieces)
  | .ending buffer => finish buffer
  | .ended => (.over, .ended)
  | .failed rest => (.over, rest)

def answers : Nat → Listener → List Answer
  | 0, _ => []
  | n + 1, l => l.next.1 :: answers n l.next.2

-- The bytes that a subscriber has still to understand.
def ahead? : Listener → Option Bytes
  | .reading buffer pieces | .framing buffer pieces => some (buffer ++ pieces.flatten)
  | .ending buffer => some buffer
  | .ended => some []
  | .failed _ => none

-- What is told is what `stream` begins with, as if all of it were there, and what is behind
-- that is still ahead. Where nothing whole and nothing wrong comes first, this was the end.
structure Tells (told : Answer × Listener) (stream : Bytes) : Prop where
  answer : told.1 = .ofFront (lastFront stream)
  ahead : ∀ f rest, front stream = .frame f rest → told.2.ahead? = some rest
  last : front stream = .incomplete → told.2 = .ended ∨ told.2 = .failed .ended

variable {buffer stream rest bytes : Bytes} {pieces : List Bytes} {l : Listener} {f : Frame}
  {error : WireError}

theorem Tells.frame (hfront : front stream = .frame f rest) (hl : l.ahead? = some rest) :
    Tells (.ofFrame f, l) stream where
  answer := by rw [Frame.lastFront_of_front hfront (by simp), Answer.ofFront]
  ahead f' rest' hframe := by
    obtain ⟨_, rfl⟩ := Front.frame.inj (hfront.symm.trans hframe)
    exact hl
  last hnone := by simp [hfront] at hnone

theorem Tells.fault (hfront : front stream = .fault error rest) (l : Listener) :
    Tells (.failed (.wire error), l) stream where
  answer := by rw [Frame.lastFront_of_front hfront (by simp), Answer.ofFront]
  ahead f rest hframe := by simp [hfront] at hframe
  last hnone := by simp [hfront] at hnone

theorem tells_nil : Tells (.over, .ended) [] :=
  ⟨rfl, fun _ _ => nofun, fun _ => Or.inl rfl⟩

theorem tells_finish (buffer : Bytes) : Tells (finish buffer) buffer := by
  rcases Frame.lastFront_cases buffer with rfl | ⟨f, rest, hfront, hlast⟩ | ⟨error, rest, _, _, hlast⟩
  · exact tells_nil
  · rw [finish, hlast]
    exact .frame hfront rfl
  · rw [finish, hlast]
    refine ⟨by rw [hlast, Answer.ofFront], fun f rest hframe => ?_, fun _ => Or.inr rfl⟩
    rw [Frame.lastFront_of_front hframe (by simp)] at hlast
    cases hlast

theorem tells_look {otherwise : Answer × Listener}
    (h : Tells otherwise (buffer ++ pieces.flatten)) :
    Tells (look buffer pieces otherwise) (buffer ++ pieces.flatten) := by
  unfold look
  split
  · rename_i f rest hfront
    exact .frame (Frame.front_append_of_frame hfront pieces.flatten) rfl
  · rename_i error rest hfront
    obtain ⟨last, hwhole⟩ := Frame.front_append_of_fault hfront pieces.flatten
    exact .fault hwhole _
  · exact h

theorem tells_read (buffer : Bytes) (pieces : List Bytes) :
    Tells (read buffer pieces) (buffer ++ pieces.flatten) := by
  induction pieces generalizing buffer with
  | nil =>
      rw [List.flatten_nil, List.append_nil]
      exact tells_finish buffer
  | cons piece more ih =>
      rw [List.flatten_cons, ← List.append_assoc]
      exact tells_look (ih (buffer ++ piece))

theorem tells_next (h : l.ahead? = some stream) : Tells l.next stream := by
  cases l with
  | reading buffer pieces => exact Option.some.inj h ▸ tells_read buffer pieces
  | framing buffer pieces => exact Option.some.inj h ▸ tells_look (tells_read buffer pieces)
  | ending buffer => exact Option.some.inj h ▸ tells_finish buffer
  | ended => exact Option.some.inj h ▸ tells_nil
  | failed rest => cases h

theorem next_written {first : Bytes} (hf : f.encode = .ok first)
    (hl : l.ahead? = some (first ++ rest)) :
    l.next.1 = .ofFrame f ∧ l.next.2.ahead? = some rest := by
  have hfront := Frame.front_of_encode hf rest
  obtain ⟨hanswer, hahead, _⟩ := tells_next hl
  rw [Frame.lastFront_of_front hfront (by simp), Answer.ofFront] at hanswer
  exact ⟨hanswer, hahead f rest hfront⟩

-- One call for each frame, and then what is left.
theorem answers_written {frames : List Frame} (h : Written frames bytes)
    (hl : l.ahead? = some (bytes ++ rest)) :
    ∃ l' : Listener, l'.ahead? = some rest ∧
      ∀ n, l.answers (frames.length + n) = frames.map .ofFrame ++ l'.answers n := by
  induction h generalizing l with
  | nil => exact ⟨l, hl, fun n => by simp⟩
  | @cons f frames first more hf _ ih =>
      rw [List.append_assoc] at hl
      obtain ⟨hanswer, hahead⟩ := next_written hf hl
      obtain ⟨l', hl', hrest⟩ := ih hahead
      refine ⟨l', hl', fun n => ?_⟩
      rw [List.length_cons, Nat.add_right_comm, answers, hanswer, hrest n]
      rfl

-- Who has come to the end, or to what ended in the middle, is told nothing else.
theorem answers_of_ended (h : l = .ended ∨ l = .failed .ended) (n : Nat) :
    l.answers n = List.replicate n .over := by
  have hended (n : Nat) : Listener.ended.answers n = List.replicate n .over := by
    induction n with
    | zero => rfl
    | succ n ih => exact congrArg (Answer.over :: ·) ih
  rcases h with rfl | rfl
  · exact hended n
  · cases n with
    | zero => rfl
    | succ n => exact congrArg (Answer.over :: ·) (hended n)

theorem answers_notifications {frames : List Frame} {stop : Option WireError}
    (h : Written frames bytes) (hl : l.ahead? = some (bytes ++ rest))
    (hstop : ∀ l' : Listener, l'.ahead? = some rest → l'.next.1 = .ofStop (stop.map .wire)) :
    l.answers ((notifications stop frames).1.length + 1) =
      (notifications stop frames).1.map .note ++ [.ofStop (notifications stop frames).2] := by
  induction h generalizing l with
  | nil => exact congrArg ([·]) (hstop l hl)
  | @cons f frames first more hf _ ih =>
      rw [List.append_assoc] at hl
      obtain ⟨hanswer, hahead⟩ := next_written hf hl
      cases f with
      | notification id datatype payload =>
          have hrest := ih hahead
          rw [notifications, answers, hanswer]
          exact congrArg (Answer.note ⟨id, datatype, payload⟩ :: ·) hrest
      | announce ttl reserved datatype payload => exact congrArg ([·]) hanswer
      | notify reserved datatype => exact congrArg ([·]) hanswer
      | validation id reserved => exact congrArg ([·]) hanswer

-- Who asks again and again is told, wherever the stream is cut, what is read from all of it
-- at once.
theorem answers_start (pieces : List Bytes) :
    (start pieces).answers ((readAll pieces.flatten).1.length + 1) =
      (readAll pieces.flatten).1.map .note ++ [.ofStop (readAll pieces.flatten).2] := by
  obtain ⟨bytes, rest, hstream, hwritten, hstop⟩ := Frame.exists_stop pieces.flatten
  have hstart : (start pieces).ahead? = some (bytes ++ rest) := congrArg some hstream
  refine answers_notifications hwritten hstart fun l' hl' => ?_
  rw [(tells_next hl').answer]
  cases herror : (takeLast pieces.flatten).error with
  | none =>
      rw [herror] at hstop
      rw [hstop, Frame.lastFront_nil]
      rfl
  | some error =>
      rw [herror] at hstop
      obtain ⟨last, hlast⟩ := Frame.lastFront_of_stop hstop.1 hstop.2
      rw [hlast]
      rfl

end Listener

def Received.frame (n : Received) : Frame :=
  .notification n.id n.datatype n.payload

-- What a server writes besides notes is nothing or a line that gives the reason for a
-- rejection. Behind any notes, and wherever the stream is cut, such a line is told as a
-- failure, because its first two letters state a size that no line has; and behind it there
-- is nothing but the end.
theorem rejection_is_no_note :
    (∀ (fresh : MessageId) (c : Connection) (b : Bridge),
      (∀ bytes, Connection.IsReply (c.receive fresh bytes b).written) ∧
        Connection.IsReply (c.finish fresh b).written) ∧
    ∀ (received : List Received) (bytes : Bytes) (r : Rejection) (pieces : List Bytes),
      Written (received.map Received.frame) bytes → r.Given → pieces.flatten = bytes ++ r.line →
        ∃ size, Frame.declared r.line = some size ∧ r.line.length < size ∧
          ∀ n, (Listener.start pieces).answers (received.length + (n + 1)) =
            received.map .note ++ .failed (.wire (.wrongSize size r.line.length)) ::
            List.replicate n .over := by
  refine ⟨fun fresh c b => ⟨Connection.isReply_receive, Connection.isReply_finish⟩,
    fun received bytes r pieces hwritten hgiven hpieces => ?_⟩
  obtain ⟨hline, size, hdeclared, hlong, hshort⟩ := hgiven.short
  have hstart : (Listener.start pieces).ahead? = some (bytes ++ r.line) := congrArg some hpieces
  obtain ⟨l, hl, hanswers⟩ := Listener.answers_written hwritten hstart
  obtain ⟨hanswer, _, hlast⟩ := Listener.tells_next hl
  rw [Frame.lastFront_of_short hshort hline, Answer.ofFront] at hanswer
  have hended := Listener.answers_of_ended (hlast (Frame.front_of_short hshort))
  have hnotes : (received.map Received.frame).map Answer.ofFrame = received.map .note := by
    rw [List.map_map]
    rfl
  refine ⟨size, hdeclared, hlong, fun n => ?_⟩
  have hall := hanswers (n + 1)
  rw [List.length_map, hnotes] at hall
  rw [hall, Listener.answers, hanswer, hended]

-- Two notes, the second without a payload, and the reason why no more will come, cut inside
-- a header, inside a payload, and inside what is taken for a size.
theorem two_notes_and_no_receiver :
    (Listener.start [[0, 10, 1], [246, 0, 1, 0, 7, 104], [], [105, 0, 8, 1, 246, 0, 2, 0, 7, 110],
        Rejection.noReceiver.line.tail]).answers 5 =
      [.note ⟨1, 7, [104, 105]⟩, .note ⟨2, 7, []⟩, .failed (.wire (.wrongSize 28271 22)), .over,
        .over] := by
  have hfirst : (Frame.notification 1 7 [104, 105]).encode =
      .ok [0, 10, 1, 246, 0, 1, 0, 7, 104, 105] := rfl
  have hsecond : (Frame.notification 2 7 []).encode = .ok [0, 8, 1, 246, 0, 2, 0, 7] := rfl
  have hwritten : Written ([⟨1, 7, [104, 105]⟩, ⟨2, 7, []⟩].map Received.frame)
      [0, 10, 1, 246, 0, 1, 0, 7, 104, 105, 0, 8, 1, 246, 0, 2, 0, 7] :=
    .cons hfirst (.cons hsecond .nil)
  obtain ⟨size, hdeclared, _, hanswers⟩ :=
    rejection_is_no_note.2 [⟨1, 7, [104, 105]⟩, ⟨2, 7, []⟩] _ .noReceiver
      [[0, 10, 1], [246, 0, 1, 0, 7, 104], [], [105, 0, 8, 1, 246, 0, 2, 0, 7, 110],
        Rejection.noReceiver.line.tail]
      hwritten .noReceiver rfl
  obtain rfl : 28271 = size := Option.some.inj hdeclared
  exact hanswers 2

end Rumor.Api.Client
