import Rumor.Proofs.Frame.Grammar

namespace Rumor.Frame

section Front

variable {f : Frame} {b rest : Bytes} {error : WireError}

-- Once it is settled what a buffer starts with, more bytes make no difference.
theorem front_append_of_frame (h : front b = .frame f rest) (more : Bytes) :
    front (b ++ more) = .frame f (rest ++ more) := by
  obtain ⟨bytes, hf, rfl⟩ := exists_encode_of_front h
  rw [List.append_assoc, front_of_encode hf]

theorem front_append_of_fault (h : front b = .fault error rest) (more : Bytes) :
    ∃ last, front (b ++ more) = .fault error last :=
  front_of_wrong ((wrong_of_front h).append more)

theorem lastFront_of_front {front' : Front} (h : front b = front')
    (hsettled : front' ≠ .incomplete) : lastFront b = some front' := by
  rw [lastFront, h]
  cases front' <;> first | rfl | exact absurd rfl hsettled

theorem lastFront_of_stop (hb : b ≠ []) (h : Short b error ∨ Wrong b error) :
    ∃ rest, lastFront b = some (.fault error rest) := by
  rcases h with hshort | hwrong
  · exact ⟨b, lastFront_of_short hshort hb⟩
  · obtain ⟨rest, hfront⟩ := front_of_wrong hwrong
    exact ⟨rest, lastFront_of_front hfront (by simp)⟩

end Front

-- Takes frames out of a stream whose pieces come in one by one, up to the first
-- fault or the end.
def takePieces (buffer : Bytes) : List Bytes → Taken
  | [] => takeLast buffer
  | piece :: more =>
      let taken := takeAll (buffer ++ piece) []
      match taken.error with
      | some _ => taken
      | none => (takePieces taken.rest more).behind taken.frames

variable {pieces pieces' : List Bytes}

-- The cases are those of what is left in the buffer once its frames are out: only
-- what is merely short waits for the pieces to come.
theorem takePieces_eq_takeLast (buffer : Bytes) (pieces : List Bytes) :
    (takePieces buffer pieces).frames = (takeLast (buffer ++ pieces.flatten)).frames ∧
      (takePieces buffer pieces).error = (takeLast (buffer ++ pieces.flatten)).error := by
  induction pieces generalizing buffer with
  | nil => simp [takePieces]
  | cons piece more ih =>
      obtain ⟨frames, bytes, rest, hbuffer, hwritten, hstop⟩ := exists_written (buffer ++ piece)
      rw [List.flatten_cons, ← List.append_assoc, hbuffer, List.append_assoc,
        takeLast_written hwritten]
      rcases hstop with ⟨error, hshort⟩ | ⟨error, hwrong⟩
      · have htaken : takeAll (buffer ++ piece) [] = ⟨frames, none, rest⟩ := by
          rw [hbuffer, takeAll_written hwritten, takeAll_of_incomplete (front_of_short hshort)]
          simp [Taken.behind]
        simpa [takePieces, htaken, Taken.behind] using ih rest
      · obtain ⟨last, hfront⟩ := front_of_wrong hwrong
        have htaken : takeAll (buffer ++ piece) [] = ⟨frames, some error, last⟩ := by
          rw [hbuffer, takeAll_written hwritten, takeAll_of_fault hfront]
          simp [Taken.behind]
        obtain ⟨last', hlast⟩ := takeLast_of_wrong (hwrong.append more.flatten)
        simp [takePieces, htaken, hlast, Taken.behind]

-- What is read from a stream depends on its bytes, not on where it is cut.
theorem takePieces_of_flatten_eq (h : pieces.flatten = pieces'.flatten) :
    (takePieces [] pieces).frames = (takePieces [] pieces').frames ∧
      (takePieces [] pieces).error = (takePieces [] pieces').error := by
  obtain ⟨hframes, herror⟩ := takePieces_eq_takeLast [] pieces
  obtain ⟨hframes', herror'⟩ := takePieces_eq_takeLast [] pieces'
  rw [hframes, herror, hframes', herror', h]
  exact ⟨rfl, rfl⟩

-- A frame and the first half of a header, cut inside both.
theorem takePieces_of_two_cuts :
    ([[0, 8], [1, 245, 0, 0, 0], [], [7, 0], [5]] : List Bytes).flatten =
      [[0, 8, 1, 245, 0, 0, 0, 7], [0, 5]].flatten ∧
    (takePieces [] [[0, 8], [1, 245, 0, 0, 0], [], [7, 0], [5]]).frames = [.notify 0 7] ∧
    (takePieces [] [[0, 8], [1, 245, 0, 0, 0], [], [7, 0], [5]]).error = some (.tooShort 2) := by
  have hflatten : ([[0, 8], [1, 245, 0, 0, 0], [], [7, 0], [5]] : List Bytes).flatten =
      [[0, 8, 1, 245, 0, 0, 0, 7], [0, 5]].flatten := rfl
  have hwritten : Written [.notify 0 7] [0, 8, 1, 245, 0, 0, 0, 7] :=
    .cons (f := .notify 0 7) rfl .nil
  have hfirst : takeAll [0, 8, 1, 245, 0, 0, 0, 7] [] = ⟨[.notify 0 7], none, []⟩ := by
    rw [← List.append_nil [0, 8, 1, 245, 0, 0, 0, 7], takeAll_written hwritten,
      takeAll_of_incomplete rfl]
    rfl
  have hrest : takeAll [0, 5] [] = ⟨[], none, [0, 5]⟩ := takeAll_of_incomplete rfl []
  have hlast : takeLast [0, 5] = ⟨[], some (.tooShort 2), [0, 5]⟩ :=
    takeLast_of_short (.noHeader (by decide)) (by decide)
  have hwhole : takePieces [] [[0, 8, 1, 245, 0, 0, 0, 7], [0, 5]] =
      ⟨[.notify 0 7], some (.tooShort 2), [0, 5]⟩ := by
    simp [takePieces, hfirst, hrest, hlast, Taken.behind]
  obtain ⟨hframes, herror⟩ := takePieces_of_flatten_eq hflatten
  rw [hwhole] at hframes herror
  exact ⟨hflatten, hframes, herror⟩

end Rumor.Frame
