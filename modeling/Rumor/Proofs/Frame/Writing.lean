import Rumor.Proofs.Frame.Grammar

-- Frames that are written into one buffer in turn, those that are too long among them.
namespace Rumor.Frame

-- One write, and the buffer on both sides of it.
structure Write where
  frame : Frame
  before : Bytes
  error : Option WireError
  after : Bytes
deriving DecidableEq, Repr

def write (buffer : Bytes) (f : Frame) : Write :=
  let (error, after) := append buffer f
  ⟨f, buffer, error, after⟩

-- Goes on with the next frame whatever became of the last.
def writeAll (buffer : Bytes) : List Frame → List Write × Bytes
  | [] => ([], buffer)
  | f :: rest =>
      let w := write buffer f
      let (writes, last) := writeAll w.after rest
      (w :: writes, last)

-- A frame is refused for its size and leaves no byte behind, or stands in full behind
-- what was there before.
inductive Write.Clean : Write → Prop
  | refused {f : Frame} {buffer : Bytes} (h : maxSize < f.size) :
      Clean ⟨f, buffer, some (.tooLarge f.size maxSize), buffer⟩
  | written {f : Frame} {buffer bytes : Bytes} (h : f.size ≤ maxSize)
      (hbytes : f.encode = .ok bytes) :
      Clean ⟨f, buffer, none, buffer ++ bytes⟩

-- The frames of the writes that did not fail.
def succeeded (writes : List Write) : List Frame :=
  (writes.filter (·.error.isNone)).map (·.frame)

theorem clean_write (buffer : Bytes) (f : Frame) : (write buffer f).Clean := by
  rcases Nat.lt_or_ge maxSize f.size with hlong | hfits
  · have hencode : f.encode = .error (.tooLarge f.size maxSize) := if_pos hlong
    simp only [write, append, hencode]
    exact .refused hlong
  · obtain ⟨bytes, hbytes⟩ : ∃ bytes, f.encode = .ok bytes := ⟨_, encode_eq_ok_iff.mpr ⟨hfits, rfl⟩⟩
    simp only [write, append, hbytes]
    exact .written hfits hbytes

section Writes

variable (buffer : Bytes) (frames : List Frame)

theorem frames_of_writeAll : (writeAll buffer frames).1.map (·.frame) = frames := by
  induction frames generalizing buffer with
  | nil => rfl
  | cons f rest ih => exact congrArg (f :: ·) (ih _)

theorem clean_of_mem_writeAll {w : Write} (h : w ∈ (writeAll buffer frames).1) : w.Clean := by
  induction frames generalizing buffer with
  | nil => cases h
  | cons f rest ih =>
      rcases List.mem_cons.mp h with rfl | hrest
      · exact clean_write buffer f
      · exact ih _ hrest

-- The buffer grows by the frames of the writes that did not fail, and by nothing else.
theorem written_of_writeAll :
    ∃ bytes, (writeAll buffer frames).2 = buffer ++ bytes ∧
      Written (succeeded (writeAll buffer frames).1) bytes := by
  induction frames generalizing buffer with
  | nil => exact ⟨[], (List.append_nil buffer).symm, .nil⟩
  | cons f rest ih =>
      have hclean := clean_write buffer f
      simp only [writeAll]
      generalize hw : write buffer f = w at hclean
      have hbefore : w.before = buffer := hw ▸ rfl
      obtain ⟨bytes, hlast, hwritten⟩ := ih w.after
      cases hclean with
      | refused h =>
          subst hbefore
          exact ⟨bytes, hlast, hwritten⟩
      | @written _ _ first h hfirst =>
          subst hbefore
          exact ⟨first ++ bytes, by rw [hlast, List.append_assoc], .cons hfirst hwritten⟩

end Writes

-- Whatever is too long among the frames, all others are read back in order and in full,
-- and nothing is left over.
theorem takeAll_of_writeAll (frames : List Frame) :
    let (writes, buffer) := writeAll [] frames
    writes.map (·.frame) = frames ∧ (∀ w ∈ writes, w.Clean) ∧
      takeAll buffer [] = ⟨succeeded writes, none, []⟩ ∧
      lastFront (takeAll buffer []).rest = none := by
  obtain ⟨bytes, hbuffer, hwritten⟩ := written_of_writeAll [] frames
  have htaken : takeAll (writeAll [] frames).2 [] =
      ⟨succeeded (writeAll [] frames).1, none, []⟩ := by
    rw [hbuffer, List.nil_append, ← List.append_nil bytes, takeAll_written hwritten,
      takeAll_of_incomplete rfl]
    simp [Taken.behind]
  refine ⟨frames_of_writeAll [] frames, fun w => clean_of_mem_writeAll [] frames, htaken, ?_⟩
  show lastFront (takeAll (writeAll [] frames).2 []).rest = none
  rw [htaken]
  exact lastFront_nil

end Rumor.Frame
