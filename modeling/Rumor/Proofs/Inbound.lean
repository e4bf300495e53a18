import Rumor.Inbound

namespace Rumor.Arrival

-- All the bytes that come, however they are cut.
def all (a : Arrival) : Bytes :=
  a.chunks.flatMap (·.bytes)

-- When the last of them comes.
def elapsed (a : Arrival) : Nat :=
  a.chunks.foldr (·.after + ·) 0

-- Every byte with the time at which it comes.
def timedFrom (now : Nat) : List Chunk → List (Nat × UInt8)
  | [] => []
  | c :: rest => c.bytes.map (now + c.after, ·) ++ timedFrom (now + c.after) rest

def timed (a : Arrival) : List (Nat × UInt8) :=
  timedFrom 0 a.chunks

-- Either the connection ends before the deadline, or so many bytes come that one of them
-- is past the limit of a record.
def IsOverBefore (deadline : Nat) (a : Arrival) : Prop :=
  (a.ends = true ∧ a.elapsed < deadline) ∨
    ∃ time byte, a.timed[Record.maxSize]? = some (time, byte) ∧ time < deadline

section Reading

variable {deadline now time wanted : Nat} {ends : Bool} {read : List Bytes} {c : Chunk}
  {rest chunks : List Chunk} {byte : UInt8}

-- A chunk comes too late, brings all that is still wanted, or leaves something to be wanted.
theorem readBefore_late (h : deadline ≤ now + c.after) :
    readBefore deadline ends wanted now read (c :: rest) = ⟨read.reverse.flatten, false⟩ := by
  rw [readBefore]
  exact if_pos h

theorem readBefore_enough (htime : now + c.after < deadline) (h : wanted ≤ c.bytes.length) :
    readBefore deadline ends wanted now read (c :: rest) =
      ⟨read.reverse.flatten ++ c.bytes.take wanted, true⟩ := by
  have hpiece : wanted ≤ (c.bytes.take wanted).length := by
    rw [List.length_take]
    omega
  rw [readBefore, if_neg (Nat.not_le.mpr htime), if_pos hpiece]
  simp

theorem readBefore_short (htime : now + c.after < deadline) (h : c.bytes.length < wanted) :
    readBefore deadline ends wanted now read (c :: rest) =
      readBefore deadline ends (wanted - c.bytes.length) (now + c.after) (c.bytes :: read) rest := by
  rw [readBefore, if_neg (Nat.not_le.mpr htime), List.take_of_length_le (Nat.le_of_lt h),
    if_neg (Nat.not_le.mpr h)]

theorem le_of_mem_timedFrom (h : (time, byte) ∈ timedFrom now chunks) : now ≤ time := by
  induction chunks generalizing now with
  | nil => cases h
  | cons c rest ih =>
      rcases List.mem_append.mp h with hfirst | hrest
      · obtain ⟨_, _, heq⟩ := List.mem_map.mp hfirst
        have htime : now + c.after = time := congrArg Prod.fst heq
        omega
      · have hlater := ih hrest
        omega

theorem le_of_mem_timedFrom_cons (h : (time, byte) ∈ timedFrom now (c :: rest)) :
    now + c.after ≤ time := by
  have hnow : (time, byte) ∈ timedFrom (now + c.after) (⟨0, c.bytes⟩ :: rest) := h
  exact le_of_mem_timedFrom hnow

theorem filter_timedFrom_late (h : deadline ≤ now + c.after) :
    (timedFrom now (c :: rest)).filter (·.1 < deadline) = [] := by
  rw [List.filter_eq_nil_iff]
  rintro ⟨time, byte⟩ hmem
  have hlate := le_of_mem_timedFrom_cons hmem
  simp only [decide_eq_true_eq, Nat.not_lt]
  omega

theorem filter_timedFrom_cons (h : now + c.after < deadline) :
    ((timedFrom now (c :: rest)).filter (·.1 < deadline)).map (·.2) =
      c.bytes ++ ((timedFrom (now + c.after) rest).filter (·.1 < deadline)).map (·.2) := by
  have hfirst : (c.bytes.map (now + c.after, ·)).filter (·.1 < deadline) =
      c.bytes.map (now + c.after, ·) := by
    rw [List.filter_eq_self]
    rintro ⟨time, byte⟩ hmem
    obtain ⟨_, _, heq⟩ := List.mem_map.mp hmem
    have htime : now + c.after = time := congrArg Prod.fst heq
    simpa [← htime] using h
  rw [timedFrom, List.filter_append, hfirst, List.map_append, List.map_map]
  simp [Function.comp_def]

-- What comes before the deadline is taken, up to as much as is wanted.
theorem taken_readBefore (deadline : Nat) (ends : Bool) (wanted now : Nat) (read : List Bytes)
    (chunks : List Chunk) :
    (readBefore deadline ends wanted now read chunks).taken =
      read.reverse.flatten ++
      (((timedFrom now chunks).filter (·.1 < deadline)).map (·.2)).take wanted := by
  induction chunks generalizing wanted now read with
  | nil => simp [readBefore, timedFrom]
  | cons c rest ih =>
      rcases Nat.lt_or_ge (now + c.after) deadline with htime | hlate
      · rw [filter_timedFrom_cons htime, List.take_append]
        rcases Nat.lt_or_ge c.bytes.length wanted with hshort | henough
        · rw [readBefore_short htime hshort, ih, List.take_of_length_le (Nat.le_of_lt hshort)]
          simp
        · rw [readBefore_enough htime henough, Nat.sub_eq_zero_of_le henough]
          simp
      · rw [readBefore_late hlate, filter_timedFrom_late hlate]
        simp

-- If the reading is over in time, it has taken all that comes, up to as much as is wanted.
theorem taken_readBefore_of_inTime
    (h : (readBefore deadline ends wanted now read chunks).inTime = true) :
    (readBefore deadline ends wanted now read chunks).taken =
      read.reverse.flatten ++ (chunks.flatMap (·.bytes)).take wanted := by
  induction chunks generalizing wanted now read with
  | nil => simp [readBefore]
  | cons c rest ih =>
      rcases Nat.lt_or_ge (now + c.after) deadline with htime | hlate
      · rw [List.flatMap_cons, List.take_append]
        rcases Nat.lt_or_ge c.bytes.length wanted with hshort | henough
        · rw [readBefore_short htime hshort] at h ⊢
          rw [ih h, List.take_of_length_le (Nat.le_of_lt hshort)]
          simp
        · rw [readBefore_enough htime henough, Nat.sub_eq_zero_of_le henough]
          simp
      · rw [readBefore_late hlate] at h
        cases h

-- The end is what is waited for, or the last byte that is wanted.
theorem inTime_readBefore_iff (deadline : Nat) (ends : Bool) (last now : Nat) (read : List Bytes)
    (chunks : List Chunk) : (readBefore deadline ends (last + 1) now read chunks).inTime = true ↔
      (ends = true ∧ now + chunks.foldr (·.after + ·) 0 < deadline) ∨
        ∃ time byte, (timedFrom now chunks)[last]? = some (time, byte) ∧ time < deadline := by
  induction chunks generalizing last now read with
  | nil => simp [readBefore, timedFrom]
  | cons c rest ih =>
      rw [List.foldr_cons]
      rcases Nat.lt_or_ge (now + c.after) deadline with htime | hlate
      · rw [timedFrom]
        rcases Nat.lt_or_ge c.bytes.length (last + 1) with hshort | henough
        · have hlast : c.bytes.length ≤ last := Nat.le_of_lt_succ hshort
          rw [readBefore_short htime hshort, Nat.succ_sub hlast, ih, Nat.add_assoc,
            List.getElem?_append_right (by simpa using hlast), List.length_map]
        · have hlast : last < c.bytes.length := henough
          rw [readBefore_enough htime henough]
          refine ⟨fun _ => Or.inr ⟨now + c.after, c.bytes[last], ?_, htime⟩, fun _ => rfl⟩
          rw [List.getElem?_append_left (by simpa using hlast)]
          simp [hlast]
      · rw [readBefore_late hlate]
        refine ⟨fun h => (by cases h), ?_⟩
        rintro (⟨_, hend⟩ | ⟨time, byte, hbyte, htime⟩)
        · omega
        · have hlater := le_of_mem_timedFrom_cons (List.mem_of_getElem? hbyte)
          omega

end Reading

variable {a : Arrival} {timeout : Nat}

theorem inTime_iff : (a.intake timeout).inTime = true ↔ a.IsOverBefore timeout := by
  rw [intake, inTime_readBefore_iff, Nat.zero_add]
  rfl

-- What is read does not depend on how the bytes were cut, as long as enough of them come
-- in time.
theorem bytes?_of_isOverBefore (h : a.IsOverBefore timeout) :
    a.bytes? timeout = some (a.all.take (Record.maxSize + 1)) := by
  have hintime := inTime_iff.mpr h
  have htaken : (a.intake timeout).taken = _ := taken_readBefore_of_inTime hintime
  rw [bytes?, if_pos hintime, htaken]
  rfl

theorem message_of_isOverBefore (h : a.IsOverBefore timeout)
    (hsize : a.all.length ≤ Record.maxSize) :
    a.message timeout = (Record.decode a.all).mapError PeerError.wire := by
  rw [message, bytes?_of_isOverBefore h, List.take_of_length_le (Nat.le_succ_of_le hsize)]
  dsimp only
  rw [if_neg (Nat.not_lt.mpr hsize)]
  cases Record.decode a.all <;> rfl

theorem message_of_long (h : a.IsOverBefore timeout) (hsize : ¬a.all.length ≤ Record.maxSize) :
    a.message timeout = .error (.wire (.tooLarge (Record.maxSize + 1) Record.maxSize)) := by
  have hlength : (a.all.take (Record.maxSize + 1)).length = Record.maxSize + 1 := by
    rw [List.length_take]
    omega
  rw [message, bytes?_of_isOverBefore h]
  dsimp only
  rw [hlength, if_pos (Nat.lt_succ_self _)]

theorem message_of_ends (hends : a.ends = true) (htime : a.elapsed < timeout)
    (hsize : a.all.length ≤ Record.maxSize) :
    a.message timeout = (Record.decode a.all).mapError PeerError.wire :=
  message_of_isOverBefore (Or.inl ⟨hends, htime⟩) hsize

theorem message_of_late (h : ¬a.IsOverBefore timeout) :
    a.message timeout = .error (.timeout "read" "inbound") := by
  rw [message, bytes?, if_neg (mt inTime_iff.mp h)]

-- If the reading is over before the deadline, its result is that for all the bytes at once,
-- wherever they were cut and whenever they came; a record is known to be too long from its
-- first byte past the limit on, and none further is taken. If not, there is no result,
-- however many bytes have come.
theorem message_of_all_or_timeout (a : Arrival) (timeout : Nat) :
    (a.IsOverBefore timeout → a.message timeout =
      if a.all.length ≤ Record.maxSize then (Record.decode a.all).mapError PeerError.wire
      else .error (.wire (.tooLarge (Record.maxSize + 1) Record.maxSize))) ∧
    (¬a.IsOverBefore timeout → a.message timeout = .error (.timeout "read" "inbound")) ∧
    (∀ (b : Arrival) (timeout' : Nat), b.all = a.all → a.IsOverBefore timeout → b.IsOverBefore timeout' →
      b.message timeout' = a.message timeout) ∧
    (a.intake timeout).taken =
      ((a.timed.filter (·.1 < timeout)).map (·.2)).take (Record.maxSize + 1) ∧
    (a.intake timeout).taken.length ≤ Record.maxSize + 1 := by
  have hover (b : Arrival) (timeout : Nat) (h : b.IsOverBefore timeout) : b.message timeout =
      if b.all.length ≤ Record.maxSize then (Record.decode b.all).mapError PeerError.wire
      else .error (.wire (.tooLarge (Record.maxSize + 1) Record.maxSize)) := by
    by_cases hsize : b.all.length ≤ Record.maxSize
    · rw [if_pos hsize, message_of_isOverBefore h hsize]
    · rw [if_neg hsize, message_of_long h hsize]
  have htaken : (a.intake timeout).taken = _ :=
    taken_readBefore timeout a.ends (Record.maxSize + 1) 0 [] a.chunks
  refine ⟨hover a timeout, message_of_late, fun b timeout' hall ha hb => ?_, htaken, ?_⟩
  · rw [hover b timeout' hb, hover a timeout ha, hall]
  · rw [htaken]
    exact List.length_take_le _ _

-- Bytes that keep coming do not put the deadline off.
example : (⟨[⟨3, [1]⟩, ⟨3, [2]⟩], true⟩ : Arrival).message 5 = .error (.timeout "read" "inbound") :=
  rfl

end Rumor.Arrival
