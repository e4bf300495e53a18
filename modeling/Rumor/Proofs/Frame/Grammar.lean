import Rumor.Proofs.Frame

-- Which bytes are frames, and what is wrong with those that are not.
namespace Rumor.Frame

-- What `frames` look like one behind the other.
inductive Written : List Frame → Bytes → Prop
  | nil : Written [] []
  | cons {f : Frame} {frames : List Frame} {bytes more : Bytes} (h : f.encode = .ok bytes)
      (hmore : Written frames more) : Written (f :: frames) (bytes ++ more)

def header (size code : UInt16) : Bytes :=
  Bytes.ofWord size ++ Bytes.ofWord code

def codes : List UInt16 :=
  [500, 501, 502, 503]

-- More bytes may still make a frame of it.
inductive Short (b : Bytes) : WireError → Prop
  | noHeader (h : b.length < headerSize) : Short b (.tooShort b.length)
  | cutOff {size code : UInt16} {rest : Bytes} (hb : b = header size code ++ rest)
      (hsize : headerSize ≤ size.toNat) (h : b.length < size.toNat) :
      Short b (.wrongSize size.toNat b.length)

-- Whatever follows, no frame will come of it. Who reads finds the first of these
-- that applies.
inductive Wrong (b : Bytes) : WireError → Prop
  | noSize {size code : UInt16} {rest : Bytes} (hb : b = header size code ++ rest)
      (h : size.toNat < headerSize) : Wrong b (.tooShort size.toNat)
  | unknown {size code : UInt16} {rest : Bytes} (hb : b = header size code ++ rest)
      (hsize : headerSize ≤ size.toNat) (hwhole : size.toNat ≤ b.length) (h : code ∉ codes) :
      Wrong b (.unknownKind code.toNat)
  | noFields {size code : UInt16} {rest : Bytes} (hb : b = header size code ++ rest)
      (hsize : headerSize ≤ size.toNat) (hwhole : size.toNat ≤ b.length) (hcode : code ∈ codes)
      (h : size.toNat < 8) : Wrong b (.tooShort size.toNat)
  | tooMuch {size code : UInt16} {rest : Bytes} (hb : b = header size code ++ rest)
      (hwhole : size.toNat ≤ b.length) (hcode : code = 501 ∨ code = 503) (h : 8 < size.toNat) :
      Wrong b (.wrongSize size.toNat 8)

variable {f : Frame} {frames : List Frame} {b bytes rest body : Bytes} {size code : UInt16}
  {error : WireError}

theorem Written.append {frames' : List Frame} {bytes' : Bytes} (h : Written frames bytes)
    (h' : Written frames' bytes') : Written (frames ++ frames') (bytes ++ bytes') := by
  induction h with
  | nil => exact h'
  | cons hf _ ih => exact List.append_assoc _ _ bytes' ▸ .cons hf ih

theorem length_header (size code : UInt16) : (header size code).length = headerSize := rfl

theorem declared_header (rest : Bytes) : declared (header size code ++ rest) = some size.toNat := by
  simp [declared, header, Bytes.ofWord, Bytes.word_ofWord]

theorem exists_header (h : headerSize ≤ b.length) :
    ∃ size code rest, b = header size code ++ rest := by
  match b, h with
  | a :: b :: c :: d :: rest, _ =>
      refine ⟨Bytes.word a b, Bytes.word c d, rest, ?_⟩
      simp [header, Bytes.ofWord_word]

section Body

theorem exists_frame (hcode : code ∈ codes) (hfields : 4 ≤ body.length)
    (hexact : code = 501 ∨ code = 503 → body.length = 4) :
    ∃ f : Frame, f.code = code ∧ f.body = body := by
  match body, hfields with
  | a :: b :: c :: d :: payload, _ =>
      simp only [codes, List.mem_cons, List.not_mem_nil, or_false] at hcode
      rcases hcode with rfl | rfl | rfl | rfl
      · exact ⟨.announce a b (Bytes.word c d) payload, rfl, by simp [Frame.body, Bytes.ofWord_word]⟩
      · obtain rfl : payload = [] := by simpa using hexact (Or.inl rfl)
        exact ⟨.notify (Bytes.word a b) (Bytes.word c d),
          rfl, by simp [Frame.body, Bytes.ofWord_word]⟩
      · exact ⟨.notification (Bytes.word a b) (Bytes.word c d) payload, rfl,
          by simp [Frame.body, Bytes.ofWord_word]⟩
      · obtain rfl : payload = [] := by simpa using hexact (Or.inr rfl)
        exact ⟨.validation (Bytes.word a b) (Bytes.word c d),
          rfl, by simp [Frame.body, Bytes.ofWord_word]⟩

theorem ofBody_unknown (h : code ∉ codes) :
    ofBody code body = .error (.unknownKind code.toNat) := by
  simp only [codes, List.mem_cons, List.not_mem_nil, or_false, not_or] at h
  simp [ofBody, h]

theorem ofBody_short (hcode : code ∈ codes) (h : body.length < 4) :
    ofBody code body = .error (tooShort body) := by
  simp only [codes, List.mem_cons, List.not_mem_nil, or_false] at hcode
  match body, h with
  | [], _ | [_], _ | [_, _], _ | [_, _, _], _ => rcases hcode with rfl | rfl | rfl | rfl <;> rfl

theorem ofBody_long (hcode : code = 501 ∨ code = 503) (h : 4 < body.length) :
    ofBody code body = .error (.wrongSize (headerSize + body.length) (headerSize + 4)) := by
  match body, h with
  | _ :: _ :: _ :: _ :: _ :: _, _ => rcases hcode with rfl | rfl <;> rfl

end Body

section Front

theorem front_header_of_lt (h : size.toNat < headerSize) (rest : Bytes) :
    front (header size code ++ rest) =
      .fault (.tooShort size.toNat) (header size code ++ rest) := by
  simp [front, header, Bytes.ofWord, Bytes.word_ofWord, h]

theorem front_header_of_cut (hsize : headerSize ≤ size.toNat)
    (h : (header size code ++ rest).length < size.toNat) :
    front (header size code ++ rest) = .incomplete := by
  have hshort : rest.length < size.toNat - headerSize := by
    rw [List.length_append, length_header] at h
    omega
  have hcut : cut? (size.toNat - headerSize) rest = none := by
    rw [cut?, if_pos]
    rw [List.length_take]
    omega
  simp only [front, header, Bytes.ofWord, List.cons_append, List.nil_append, Bytes.word_ofWord]
  rw [if_neg (Nat.not_lt.mpr hsize), hcut]

theorem front_header_of_body (h : size.toNat = headerSize + body.length) (rest : Bytes) :
    front (header size code ++ (body ++ rest)) =
      match ofBody code body with
      | .ok f => .frame f rest
      | .error error => .fault error rest := by
  have hsize : ¬size.toNat < headerSize := by omega
  have hbody : size.toNat - headerSize = body.length := by omega
  cases hof : ofBody code body <;>
    simp only [front, header, Bytes.ofWord, List.cons_append, List.nil_append, Bytes.word_ofWord,
      if_neg hsize, hbody, cut?_append, hof]

-- A frame is there in full; its body and what follows.
theorem exists_body (hb : b = header size code ++ rest) (hsize : headerSize ≤ size.toNat)
    (hwhole : size.toNat ≤ b.length) :
    ∃ body more, rest = body ++ more ∧ size.toNat = headerSize + body.length := by
  rw [hb, List.length_append, length_header] at hwhole
  refine ⟨rest.take (size.toNat - headerSize), rest.drop (size.toNat - headerSize),
    (List.take_append_drop _ _).symm, ?_⟩
  rw [List.length_take]
  omega

theorem front_of_wrong (h : Wrong b error) : ∃ rest, front b = .fault error rest := by
  have hfour : headerSize = 4 := rfl
  cases h with
  | noSize hb h => exact ⟨_, hb ▸ front_header_of_lt h _⟩
  | unknown hb hsize hwhole h =>
      obtain ⟨body, more, rfl, hlength⟩ := exists_body hb hsize hwhole
      exact ⟨more, by rw [hb, front_header_of_body hlength, ofBody_unknown h]⟩
  | noFields hb hsize hwhole hcode h =>
      obtain ⟨body, more, rfl, hlength⟩ := exists_body hb hsize hwhole
      refine ⟨more, ?_⟩
      rw [hb, front_header_of_body hlength, ofBody_short hcode (by omega), hlength]
      rfl
  | tooMuch hb hwhole hcode h =>
      obtain ⟨body, more, rfl, hlength⟩ := exists_body hb (by omega) hwhole
      refine ⟨more, ?_⟩
      rw [hb, front_header_of_body hlength, ofBody_long hcode (by omega), hlength]
      rfl

theorem front_of_short (h : Short b error) : front b = .incomplete := by
  cases h with
  | noHeader h =>
      match b, h with
      | [], _ | [_], _ | [_, _], _ | [_, _, _], _ => rfl
  | cutOff hb hsize h =>
      subst hb
      exact front_header_of_cut hsize h

theorem lastFront_of_short (h : Short b error) (hb : b ≠ []) :
    lastFront b = some (.fault error b) := by
  have hempty : b.isEmpty = false := List.isEmpty_eq_false_iff.mpr hb
  rw [lastFront, front_of_short h]
  dsimp only
  rw [hempty]
  cases h with
  | noHeader h =>
      match b, h with
      | [], _ | [_], _ | [_, _], _ | [_, _, _], _ => rfl
  | cutOff hb hsize h =>
      subst hb
      rw [declared_header]
      rfl

theorem Wrong.append (h : Wrong b error) (more : Bytes) : Wrong (b ++ more) error := by
  have hgrow : b.length ≤ (b ++ more).length := by simp
  cases h with
  | noSize hb h => exact .noSize (by rw [hb, List.append_assoc]) h
  | unknown hb hsize hwhole h =>
      exact .unknown (by rw [hb, List.append_assoc]) hsize (Nat.le_trans hwhole hgrow) h
  | noFields hb hsize hwhole hcode h =>
      exact .noFields (by rw [hb, List.append_assoc]) hsize (Nat.le_trans hwhole hgrow) hcode h
  | tooMuch hb hwhole hcode h =>
      exact .tooMuch (by rw [hb, List.append_assoc]) (Nat.le_trans hwhole hgrow) hcode h

-- With all of its bytes there, a frame is wrong or is read.
theorem wrong_or_starts (hb : b = header size code ++ rest) (hsize : headerSize ≤ size.toNat)
    (hwhole : size.toNat ≤ b.length) :
    (∃ error, Wrong b error) ∨ ∃ (f : Frame) (bytes rest : Bytes), f.encode = .ok bytes ∧
    b = bytes ++ rest := by
  by_cases hcode : code ∈ codes
  · by_cases hfields : size.toNat < 8
    · exact Or.inl ⟨_, .noFields hb hsize hwhole hcode hfields⟩
    · by_cases hmore : (code = 501 ∨ code = 503) ∧ 8 < size.toNat
      · exact Or.inl ⟨_, .tooMuch hb hwhole hmore.1 hmore.2⟩
      · obtain ⟨body, more, rfl, hlength⟩ := exists_body hb hsize hwhole
        rw [headerSize] at hlength
        have hexact (h : code = 501 ∨ code = 503) : body.length = 4 := by
          have hle := Nat.not_lt.mp fun hlt => hmore ⟨h, hlt⟩
          omega
        obtain ⟨f, rfl, rfl⟩ := exists_frame hcode (by omega) hexact
        have hfull : f.size = size.toNat := hlength.symm
        have hmax : f.size ≤ maxSize := hfull ▸ Nat.le_of_lt_succ size.toNat_lt
        have hword : UInt16.ofNat f.size = size := by rw [hfull, UInt16.ofNat_toNat]
        refine Or.inr ⟨f, header size f.code ++ f.body, more, ?_, by rw [hb, List.append_assoc]⟩
        exact encode_eq_ok_iff.mpr ⟨hmax, by rw [hword, header]⟩
  · exact Or.inl ⟨_, .unknown hb hsize hwhole hcode⟩

theorem short_or_wrong_or_starts (b : Bytes) :
    (∃ error, Short b error) ∨ (∃ error, Wrong b error) ∨
      ∃ (f : Frame) (bytes rest : Bytes), f.encode = .ok bytes ∧ b = bytes ++ rest := by
  by_cases hheader : headerSize ≤ b.length
  · obtain ⟨size, code, rest, hb⟩ := exists_header hheader
    by_cases hsize : headerSize ≤ size.toNat
    · by_cases hwhole : size.toNat ≤ b.length
      · exact Or.inr (wrong_or_starts hb hsize hwhole)
      · exact Or.inl ⟨_, .cutOff hb hsize (Nat.lt_of_not_le hwhole)⟩
    · exact Or.inr (Or.inl ⟨_, .noSize hb (Nat.lt_of_not_le hsize)⟩)
  · exact Or.inl ⟨_, .noHeader (Nat.lt_of_not_le hheader)⟩

theorem exists_encode_of_front (h : front b = .frame f rest) :
    ∃ bytes, f.encode = .ok bytes ∧ b = bytes ++ rest := by
  rcases short_or_wrong_or_starts b with
    ⟨error, hshort⟩ | ⟨error, hwrong⟩ | ⟨f', bytes, rest', hf, hb⟩
  · rw [front_of_short hshort] at h
    cases h
  · obtain ⟨rest', hfront⟩ := front_of_wrong hwrong
    rw [hfront] at h
    cases h
  · rw [hb, front_of_encode hf] at h
    cases h
    exact ⟨bytes, hf, hb⟩

theorem wrong_of_front (h : front b = .fault error rest) : Wrong b error := by
  rcases short_or_wrong_or_starts b with
    ⟨error', hshort⟩ | ⟨error', hwrong⟩ | ⟨f, bytes, rest', hf, hb⟩
  · rw [front_of_short hshort] at h
    cases h
  · obtain ⟨rest', hfront⟩ := front_of_wrong hwrong
    rw [hfront] at h
    cases h
    exact hwrong
  · rw [hb, front_of_encode hf] at h
    cases h

theorem lastFront_nil : lastFront [] = none := rfl

-- At the end, what is merely short is as wrong as the rest.
theorem lastFront_cases (b : Bytes) :
    b = [] ∨ (∃ f rest, front b = .frame f rest ∧ lastFront b = some (.frame f rest)) ∨
      ∃ error rest, b ≠ [] ∧ (Short b error ∨ Wrong b error) ∧
        lastFront b = some (.fault error rest) := by
  by_cases hb : b = []
  · exact Or.inl hb
  · refine Or.inr ?_
    rcases short_or_wrong_or_starts b with
      ⟨error, hshort⟩ | ⟨error, hwrong⟩ | ⟨f, bytes, rest, hf, rfl⟩
    · exact Or.inr ⟨error, b, hb, Or.inl hshort, lastFront_of_short hshort hb⟩
    · obtain ⟨rest, hfront⟩ := front_of_wrong hwrong
      exact Or.inr ⟨error, rest, hb, Or.inr hwrong, by rw [lastFront, hfront]⟩
    · have hfront := front_of_encode hf rest
      exact Or.inl ⟨f, rest, hfront, by rw [lastFront, hfront]⟩

end Front

section Taken

theorem takeAll_of_frame (h : front b = .frame f rest) (read : List Frame) :
    takeAll b read = takeAll rest (f :: read) := by
  rw [takeAll]
  split <;> simp_all

theorem takeAll_of_fault (h : front b = .fault error rest) (read : List Frame) :
    takeAll b read = ⟨read.reverse, some error, rest⟩ := by
  rw [takeAll]
  split <;> simp_all

theorem takeAll_of_incomplete (h : front b = .incomplete) (read : List Frame) :
    takeAll b read = ⟨read.reverse, none, b⟩ := by
  rw [takeAll]
  split <;> simp_all

-- Frames that stand in front of others.
def Taken.behind (frames : List Frame) (taken : Taken) : Taken :=
  { taken with frames := frames ++ taken.frames }

theorem takeAll_read (b : Bytes) (read : List Frame) :
    takeAll b read = (takeAll b []).behind read.reverse := by
  cases h : front b with
  | frame f rest =>
      have hlength := front_length h
      rw [takeAll_of_frame h, takeAll_of_frame h, takeAll_read rest (f :: read),
        takeAll_read rest [f]]
      simp [Taken.behind]
  | fault error rest =>
      rw [takeAll_of_fault h, takeAll_of_fault h]
      simp [Taken.behind]
  | incomplete =>
      rw [takeAll_of_incomplete h, takeAll_of_incomplete h]
      simp [Taken.behind]
termination_by b.length

theorem takeAll_written (h : Written frames bytes) (rest : Bytes) :
    takeAll (bytes ++ rest) [] = (takeAll rest []).behind frames := by
  induction h with
  | nil => rfl
  | cons hf _ ih =>
      rw [List.append_assoc, takeAll_of_frame (front_of_encode hf _), takeAll_read, ih]
      rfl

theorem takeLast_written (h : Written frames bytes) (rest : Bytes) :
    takeLast (bytes ++ rest) = (takeLast rest).behind frames := by
  simp only [takeLast, takeAll_written h]
  rcases takeAll rest [] with ⟨taken, _ | error, last⟩
  · rcases hlast : lastFront last with _ | _ | _ | _ <;> simp [Taken.behind, hlast]
  · rfl

-- Every buffer is frames and then something that is none.
theorem exists_written (b : Bytes) : ∃ frames bytes rest, b = bytes ++ rest ∧ Written frames bytes ∧
    ((∃ error, Short rest error) ∨ ∃ error, Wrong rest error) := by
  rcases short_or_wrong_or_starts b with hshort | hwrong | ⟨f, first, rest, hf, hb⟩
  · exact ⟨[], [], b, rfl, .nil, Or.inl hshort⟩
  · exact ⟨[], [], b, rfl, .nil, Or.inr hwrong⟩
  · have hlength : rest.length < b.length := front_length (hb ▸ front_of_encode hf rest)
    obtain ⟨frames, bytes, last, hrest, hwritten, hlast⟩ := exists_written rest
    exact ⟨f :: frames, first ++ bytes, last, by rw [hb, hrest, List.append_assoc],
      .cons hf hwritten, hlast⟩
termination_by b.length

theorem takeLast_nil : takeLast [] = ⟨[], none, []⟩ := by
  rw [takeLast, takeAll_of_incomplete rfl]
  rfl

theorem takeLast_of_short (h : Short b error) (hb : b ≠ []) : takeLast b = ⟨[], some error, b⟩ := by
  simp only [takeLast, takeAll_of_incomplete (front_of_short h), lastFront_of_short h hb]
  rfl

theorem takeLast_of_wrong (h : Wrong b error) : ∃ rest, takeLast b = ⟨[], some error, rest⟩ := by
  obtain ⟨rest, hfront⟩ := front_of_wrong h
  exact ⟨rest, by simp only [takeLast, takeAll_of_fault hfront]; rfl⟩

-- What is wrong with a buffer is settled, and nothing is wrong with a frame.
theorem error_takeLast (hb : b ≠ []) (h : Short b error ∨ Wrong b error) :
    (takeLast b).frames = [] ∧ (takeLast b).error = some error := by
  rcases h with h | h
  · rw [takeLast_of_short h hb]
    exact ⟨rfl, rfl⟩
  · obtain ⟨rest, hlast⟩ := takeLast_of_wrong h
    rw [hlast]
    exact ⟨rfl, rfl⟩

-- The frames that are taken stand in front of what is wrong, or of nothing.
theorem exists_stop (b : Bytes) :
    ∃ bytes rest, b = bytes ++ rest ∧ Written (takeLast b).frames bytes ∧
    match (takeLast b).error with
    | none => rest = []
    | some error => rest ≠ [] ∧ (Short rest error ∨ Wrong rest error) := by
  obtain ⟨frames, bytes, rest, rfl, hwritten, hstop⟩ := exists_written b
  refine ⟨bytes, rest, rfl, ?_⟩
  rw [takeLast_written hwritten]
  by_cases hrest : rest = []
  · rw [hrest, takeLast_nil]
    exact ⟨by simpa [Taken.behind] using hwritten, rfl⟩
  · obtain ⟨error, hwhy⟩ : ∃ error, Short rest error ∨ Wrong rest error := by
      rcases hstop with ⟨error, hshort⟩ | ⟨error, hwrong⟩
      · exact ⟨error, Or.inl hshort⟩
      · exact ⟨error, Or.inr hwrong⟩
    obtain ⟨hframes, herror⟩ := error_takeLast hrest hwhy
    simp only [Taken.behind, hframes, herror, List.append_nil]
    exact ⟨hwritten, hrest, hwhy⟩

theorem not_starts (h : Short b error ∨ Wrong b error) (hf : f.encode = .ok bytes) :
    ¬bytes <+: b := by
  rintro ⟨rest, rfl⟩
  have hfront := front_of_encode hf rest
  rcases h with h | h
  · rw [front_of_short h] at hfront
    cases hfront
  · obtain ⟨last, hwrong⟩ := front_of_wrong h
    rw [hwrong] at hfront
    cases hfront

end Taken

-- Reading accepts what writing produces and nothing else. What it stops at is no
-- frame, and tells why.
theorem takeLast_accepts_written (b : Bytes) :
    (∀ frames, (takeLast b).frames = frames ∧ (takeLast b).error = none ↔ Written frames b) ∧
    ∃ bytes rest, b = bytes ++ rest ∧ Written (takeLast b).frames bytes ∧
      ((takeLast b).error = none ↔ rest = []) ∧
      (∀ error, (takeLast b).error = some error ↔ rest ≠ [] ∧ (Short rest error ∨ Wrong rest error)) ∧
      (rest ≠ [] → ∀ (f : Frame) (first : Bytes), f.encode = .ok first → ¬first <+: rest) := by
  obtain ⟨frames, bytes, rest, rfl, hwritten, hstop⟩ := exists_written b
  have hstops : ∃ error, Short rest error ∨ Wrong rest error := by
    rcases hstop with ⟨error, h⟩ | ⟨error, h⟩
    · exact ⟨error, Or.inl h⟩
    · exact ⟨error, Or.inr h⟩
  obtain ⟨error, hstops⟩ := hstops
  rw [takeLast_written hwritten]
  have hframes : ((takeLast rest).behind frames).frames = frames := by
    by_cases hrest : rest = []
    · rw [hrest, takeLast_nil]
      simp [Taken.behind]
    · simp [Taken.behind, (error_takeLast hrest hstops).1]
  have herror : ((takeLast rest).behind frames).error = none ↔ rest = [] := by
    by_cases hrest : rest = []
    · simp [hrest, takeLast_nil, Taken.behind]
    · simp [hrest, (error_takeLast hrest hstops).2, Taken.behind]
  refine ⟨fun frames' => ⟨?_, ?_⟩, bytes, rest, rfl, hframes.symm ▸ hwritten, herror,
    fun error' => ?_, ?_⟩
  · rintro ⟨rfl, hnone⟩
    rw [hframes, herror.mp hnone, List.append_nil]
    exact hwritten
  · intro h
    have hlast := takeLast_written h []
    rw [List.append_nil, takeLast_nil, takeLast_written hwritten] at hlast
    rw [hlast]
    simp [Taken.behind]
  · constructor
    · intro hsome
      have hrest : rest ≠ [] := fun h => by simp [herror.mpr h] at hsome
      obtain rfl : error = error' :=
        Option.some.inj ((error_takeLast hrest hstops).2.symm.trans hsome)
      exact ⟨hrest, hstops⟩
    · rintro ⟨hrest, h⟩
      exact (error_takeLast hrest h).2
  · intro _ f first hf
    exact not_starts hstops hf

end Rumor.Frame
