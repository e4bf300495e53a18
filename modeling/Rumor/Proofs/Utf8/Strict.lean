import Rumor.Proofs.Utf8.Lossy

-- Bytes are read as a text if and only if they are what the text is written as.
namespace Rumor.Utf8

-- Nothing is broken, and nothing is begun and not complete.
structure Scan.IsWhole (s : Scan) : Prop where
  pending : s.pending = none
  unbroken : ∀ width, .broken width ∉ s.pieces

-- What is read on in a state that has begun `part` adds the characters that it is written as,
-- if all is well in the end.
def ReadsFrom (s : Scan) (part bytes : Bytes) : Prop :=
  (bytes.foldl Scan.step s).IsWhole → ∃ chars : List Char,
    part ++ bytes = chars.flatMap encodeChar ∧
    (bytes.foldl Scan.step s).pieces = (chars.map Piece.char).reverse ++ s.pieces

section From

variable {pieces : List Piece} {part bytes rest : Bytes} {p : Pending} {b : UInt8} {s : Scan}

theorem ReadsFrom.char {c : Char} (h : ReadsFrom ⟨.char c :: s.pieces, none⟩ [] rest)
    (hchar : encodeChar c = part ++ [b]) (hstep : s.step b = ⟨.char c :: s.pieces, none⟩) :
    ReadsFrom s part (b :: rest) := by
  intro hwhole
  rw [List.foldl_cons, hstep] at hwhole ⊢
  obtain ⟨chars, hrest, hpieces⟩ := h hwhole
  refine ⟨c :: chars, ?_, by simpa using hpieces⟩
  rw [List.flatMap_cons, hchar, ← hrest]
  simp

-- What is broken once is broken in the end.
theorem readsFrom_of_broken {width : Nat} (hmem : .broken width ∈ (s.step b).pieces) :
    ReadsFrom s part (b :: rest) :=
  fun hwhole => absurd (mem_foldl_step hmem rest) (hwhole.unbroken width)

theorem ReadsFrom.idle (b : UInt8) (hidle : ∀ pieces, ReadsFrom ⟨pieces, none⟩ [] rest)
    (hpending : ∀ part p pieces, Begun part p → ReadsFrom ⟨pieces, some p⟩ part rest)
    (pieces : List Piece) : ReadsFrom ⟨pieces, none⟩ [] (b :: rest) := by
  rcases step_idle_cases b with ⟨c, hchar, hstep⟩ | ⟨p, hlead, hstep⟩ | ⟨_, _, hstep⟩
  · exact (hidle (.char c :: pieces)).char hchar (hstep pieces)
  · intro hwhole
    rw [List.foldl_cons, hstep] at hwhole ⊢
    exact hpending [b] p pieces (.lead hlead) hwhole
  · have hmem : .broken 1 ∈ (Scan.step ⟨pieces, none⟩ b).pieces := by simp [hstep]
    exact readsFrom_of_broken hmem

theorem ReadsFrom.pending (h : Begun part p) (hidle : ∀ pieces, ReadsFrom ⟨pieces, none⟩ [] rest)
    (hpending : ∀ part p pieces, Begun part p → ReadsFrom ⟨pieces, some p⟩ part rest)
    (pieces : List Piece) : ReadsFrom ⟨pieces, some p⟩ part (b :: rest) := by
  rcases h.step_cases b with ⟨c, hchar, hstep⟩ | ⟨p', hbegun, hstep⟩ | ⟨_, hstep⟩
  · exact (hidle (.char c :: pieces)).char hchar (hstep pieces)
  · intro hwhole
    rw [List.foldl_cons, hstep] at hwhole ⊢
    obtain ⟨chars, hbytes, hpieces⟩ := hpending _ p' pieces hbegun hwhole
    exact ⟨chars, by simpa using hbytes, hpieces⟩
  · have hmem : .broken p.width ∈ (Scan.step ⟨.broken p.width :: pieces, none⟩ b).pieces :=
      mem_step List.mem_cons_self b
    exact readsFrom_of_broken (hstep pieces ▸ hmem)

end From

theorem readsFrom (bytes : Bytes) : (∀ pieces, ReadsFrom ⟨pieces, none⟩ [] bytes) ∧
    ∀ part p pieces, Begun part p → ReadsFrom ⟨pieces, some p⟩ part bytes := by
  induction bytes with
  | nil =>
      refine ⟨fun pieces _ => ⟨[], rfl, rfl⟩, fun part p pieces _ hwhole => ?_⟩
      cases hwhole.pending
  | cons b rest ih =>
      obtain ⟨hidle, hpending⟩ := ih
      exact ⟨.idle b hidle hpending, fun _ _ pieces h => .pending h hidle hpending pieces⟩

theorem of_collect_eq_ok {cut : Bool} {text : List Char} {index : Nat} {pieces : List Piece}
    {result : String} (h : collect cut text index pieces = .ok result) : cut = false ∧
      (∀ width, .broken width ∉ pieces) ∧ result =
        String.ofList (text.reverse ++ pieces.map Piece.shown) := by
  induction pieces generalizing text index with
  | nil =>
      cases cut with
      | true => cases h
      | false =>
          obtain rfl := Except.ok.inj h
          exact ⟨rfl, by simp, by simp⟩
  | cons piece rest ih =>
      cases piece with
      | broken width => cases h
      | char c =>
          obtain ⟨hcut, hwhole, hresult⟩ := ih h
          exact ⟨hcut, by simpa using hwhole, by simpa [Piece.shown] using hresult⟩

theorem decode_eq_ok_iff {bytes : Bytes} {text : String} :
    decode bytes = .ok text ↔ bytes = encode text := by
  refine ⟨fun h => ?_, fun h => h ▸ decode_encode text⟩
  obtain ⟨hcut, hunbroken, htext⟩ := of_collect_eq_ok h
  have hwhole : (scan bytes).IsWhole := ⟨by simpa using hcut, by simpa using hunbroken⟩
  obtain ⟨chars, hbytes, hpieces⟩ := (readsFrom bytes).1 [] hwhole
  have hchars : text = String.ofList chars := by
    rw [htext, scan, hpieces]
    simp [Function.comp_def, Piece.shown]
  rw [hchars, encode, String.toList_ofList]
  exact hbytes

end Rumor.Utf8
