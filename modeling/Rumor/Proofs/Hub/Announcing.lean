import Rumor.Proofs.Api.Rejection
import Rumor.Proofs.Hub.Conversation
import Rumor.Proofs.Hub.Delivery

-- What becomes of a connection whose client sends a single announcement, all of it or
-- a part, and what the client makes of the answer.
namespace Rumor.Hub

open Api (Bridge)
open Rumor.Frame (Written)

section Connection

variable {deeds : Deeds} {c c' : Client} {b b' : Bridge} {deed : Deed} {name : String}

-- A connection that is closed reads no more.
theorem Client.Step.silent_of_closed (hs : c.Step b deed c' b')
    (hclosed : c.connection.isOpen = false) :
    c'.connection.isOpen = false ∧ deed.reading? = none := by
  cases hs with
  | send bytes =>
      rw [Client.gets_of_closed hclosed]
      exact ⟨hclosed, rfl⟩
  | read _ hopen | pick hopen | lose hopen | stop hopen =>
      exact absurd (hclosed.symm.trans hopen) Bool.false_ne_true
  | _ => exact ⟨hclosed, rfl⟩

-- A part of a connection's life in which it reads nothing.
structure Silent (deeds : Deeds) : Prop where
  readings : deeds.readings = []
  lines : deeds.lines = []
  announced : deeds.announced = []

theorem Silent.append {more : Deeds} (h : Silent deeds) (hmore : Silent more) :
    Silent (deeds ++ more) where
  readings := by simp [h.readings, hmore.readings]
  lines := by simp [h.lines, hmore.lines]
  announced := by simp [h.announced, hmore.announced]

theorem Silent.of_deed (h : deed.reading? = none) : Silent [deed] :=
  have hsilent := Deed.silent h
  ⟨hsilent.1, hsilent.2.1, hsilent.2.2⟩

theorem silent_of_closed (run : Run Client.Moves c deeds c')
    (hclosed : c.connection.isOpen = false) : c'.connection.isOpen = false ∧ Silent deeds := by
  induction run with
  | refl => exact ⟨hclosed, rfl, rfl, rfl⟩
  | step _ hs ih =>
      obtain ⟨_, _, hs⟩ := hs
      obtain ⟨hclosed', hsilent⟩ := ih
      obtain ⟨hlater, hnone⟩ := hs.silent_of_closed hclosed'
      exact ⟨hlater, hsilent.append (.of_deed hnone)⟩

-- A connection that was broken off had given no answer.
theorem silent_of_cut (run : Run Client.Moves (.accepted name) deeds c)
    (hcut : .broke ∈ deeds ∨ .stopped ∈ deeds) :
    c.connection.isOpen = false ∧ deeds.lines = [] ∧ deeds.announced = [] ∧ ∃ frames bytes,
      deeds.readings = frames.map .frame ∧ (∀ r ∈ frames.map Reading.frame, r.goesOn = true) ∧
      Written frames bytes ∧ bytes <+: deeds.stream := by
  obtain ⟨cut, hmem, hwhich⟩ : ∃ cut ∈ deeds, cut = .broke ∨ cut = .stopped := by
    rcases hcut with h | h
    · exact ⟨_, h, Or.inl rfl⟩
    · exact ⟨_, h, Or.inr rfl⟩
  obtain ⟨early, late, rfl⟩ := List.append_of_mem hmem
  obtain ⟨c₁, hearly, hrest⟩ := run.split
  obtain ⟨c₂, ⟨_, _, hs⟩, hlate⟩ := hrest.first
  have hends : c₁.connection.isOpen = true ∧ c₂.connection.isOpen = false ∧
      cut.reading? = none := by
    rcases hwhich with rfl | rfl
    · cases hs with
      | lose hopen => exact ⟨hopen, rfl, rfl⟩
    · cases hs with
      | stop hopen => exact ⟨hopen, rfl, rfl⟩
  obtain ⟨hopen, hclosed, hnone⟩ := hends
  obtain ⟨hlater, hafter⟩ := silent_of_closed hlate hclosed
  have hsilent : Silent (cut :: late) := (Silent.of_deed hnone).append hafter
  cases heard_of_run hearly with
  | parted hclosed' | cut hclosed' => exact absurd (hclosed'.symm.trans hopen) Bool.false_ne_true
  | listening _ hreadings hgoes hwritten hstream hlines hannounced =>
      refine ⟨hlater, by simp [hlines, hsilent.lines], by simp [hannounced, hsilent.announced],
        _, _, by simp [hreadings, hsilent.readings], hgoes, hwritten, ?_⟩
      rw [Deeds.stream_append, hstream, List.append_assoc]
      exact List.prefix_append _ _

end Connection

section Single

variable {f : Frame} {frames : List Frame} {bytes early rest : Bytes} {reading : Reading}
  {ended : Bool}

-- Frames that go on are not the beginning of one that does not.
theorem frames_eq_nil (hf : f.encode = .ok bytes) (hstops : (Reading.frame f).goesOn = false)
    (hwritten : Written frames early) (hearly : early <+: bytes)
    (hgoes : ∀ r ∈ frames.map Reading.frame, r.goesOn = true) : frames = [] := by
  cases hwritten with
  | nil => rfl
  | @cons g frames first more hg hmore =>
      obtain ⟨rest, hrest⟩ := hearly
      have hfirst := Frame.front_of_encode hg (more ++ rest)
      have hwhole := Frame.front_of_encode hf []
      rw [List.append_nil, ← hrest, List.append_assoc, hfirst] at hwhole
      obtain ⟨rfl, _⟩ := Frame.Front.frame.inj hwhole
      have hgo := hgoes (.frame g) (by simp)
      exact absurd (hstops.symm.trans hgo) Bool.false_ne_true

-- What is read from a part of a frame is the frame itself or the end of the stream.
theorem Reading.Heads.of_prefix (h : reading.Heads ended rest) (hf : f.encode = .ok bytes)
    (hrest : rest <+: bytes) :
    reading = .frame f ∧ rest = bytes ∨ ended = true ∧ ∀ g, reading ≠ .frame g := by
  obtain ⟨missing, hmissing⟩ := hrest
  have hwhole := Frame.front_of_encode hf []
  rw [List.append_nil, ← hmissing] at hwhole
  cases h with
  | @frame g first more hg hfirst =>
      have hfront := Frame.front_of_encode hg (more ++ missing)
      rw [hfirst, List.append_assoc, hfront] at hwhole
      simp only [Frame.Front.frame.injEq, List.append_eq_nil_iff] at hwhole
      obtain ⟨rfl, _, rfl⟩ := hwhole
      exact Or.inl ⟨rfl, by rw [← hmissing, List.append_nil]⟩
  | wrong hwrong =>
      obtain ⟨_, hfault⟩ := Frame.front_of_wrong (hwrong.append missing)
      rw [hfault] at hwhole
      cases hwhole
  | short hended | ended hended => exact Or.inr ⟨hended, by simp⟩

end Single

-- What has become of a frame of which a client sent a part or all.
inductive Fate (f : Frame) (bytes : Bytes) (deeds : Deeds) (c : Client) : Prop
  | unread (hopen : c.connection.isOpen = true) (hlines : deeds.lines = [])
      (hannounced : deeds.announced = [])
  | cut (hclosed : c.connection.isOpen = false) (hcut : .broke ∈ deeds ∨ .stopped ∈ deeds)
      (hlines : deeds.lines = []) (hannounced : deeds.announced = [])
  | read {met : Bridge} (hclosed : c.connection.isOpen = false) (hwhole : deeds.stream = bytes)
      (hparting : Parting met.self met.announces (.frame f) deeds.lines deeds.announced)
  | ended (hclosed : c.connection.isOpen = false) (hended : c.ended = true)
      (hannounced : deeds.announced = [])

theorem Parting.announced_of_no_frame {self : String} {met : Queue Message} {last : Reading}
    {lines : List Bytes} {announced : List Message} (h : Parting self met last lines announced)
    (hlast : ∀ g, last ≠ .frame g) : announced = [] := by
  cases h with
  | announced => exact absurd rfl (hlast _)
  | _ => rfl

theorem fate_of_run {name : String} {f : Frame} {bytes : Bytes} {deeds : Deeds} {c : Client}
    (run : Run Client.Moves (.accepted name) deeds c) (hf : f.encode = .ok bytes)
    (hstops : (Reading.frame f).goesOn = false) (hpart : deeds.stream <+: bytes) :
    deeds.asked = [] ∧ Fate f bytes deeds c := by
  cases heard_of_run run with
  | @listening frames early hopen hreadings hgoes hwritten hstream hlines hannounced =>
      have hearly : early <+: deeds.stream := hstream ▸ List.prefix_append _ _
      obtain rfl := frames_eq_nil hf hstops hwritten (hearly.trans hpart) hgoes
      exact ⟨by rw [Deeds.asked_eq, hreadings]; rfl, .unread hopen hlines hannounced⟩
  | @parted frames early rest last met turn hclosed hreadings hgoes hwritten hstream hheads
    hread hparting =>
      have hearly : early <+: deeds.stream := hstream ▸ List.prefix_append _ _
      obtain rfl := frames_eq_nil hf hstops hwritten (hearly.trans hpart) hgoes
      cases hwritten
      rw [List.nil_append] at hstream
      refine ⟨by rw [Deeds.asked_eq, hreadings]; simp [hparting.asks?_eq_none], ?_⟩
      rw [hstream] at hpart
      rcases hheads.of_prefix hf hpart with ⟨rfl, rfl⟩ | ⟨hended, hlast⟩
      · exact .read hclosed hstream hparting
      · exact .ended hclosed hended (hparting.announced_of_no_frame hlast)
  | cut hclosed hcut =>
      obtain ⟨_, hlines, hannounced, frames, early, hreadings, hgoes, hwritten, hearly⟩ :=
        silent_of_cut run hcut
      obtain rfl := frames_eq_nil hf hstops hwritten (hearly.trans hpart) hgoes
      exact ⟨by rw [Deeds.asked_eq, hreadings]; rfl, .cut hclosed hcut hlines hannounced⟩

end Rumor.Hub
