import Mathlib.Data.List.Nodup
import Rumor.Proofs.Stamp.Binding
import Rumor.Proofs.Utf8.Lossy

namespace Rumor

namespace Message

inductive Field
  | kind
  | sender
  | payload
  | ttl
  | id
  | nonce
deriving DecidableEq, Repr

variable (m m' : Message)

def Agree : Field → Prop
  | .kind => m.kind = m'.kind
  | .sender => m.sender = m'.sender
  | .payload => m.payload = m'.payload
  | .ttl => m.ttl = m'.ttl
  | .id => m.id = m'.id
  | .nonce => m.nonce = m'.nonce

-- That field tells the two messages apart, and no other does.
def DifferIn (field : Field) : Prop :=
  ∀ other, Agree m m' other ↔ other ≠ field

end Message

namespace Stamp

variable {m m' : Message} {field : Message.Field}

-- A field as it goes into the digest.
def written (m : Message) : Message.Field → String
  | .kind => Decimal.ofInt m.kind.toInt
  | .sender => m.sender
  | .payload => Utf8.lossy m.payload
  | .ttl => Decimal.ofInt m.ttl.toInt
  | .id => Decimal.ofNat m.id.toNat
  | .nonce => Decimal.ofNat m.nonce.toNat

def writingOrder : List Message.Field :=
  [.kind, .sender, .payload, .ttl, .id, .nonce]

theorem hashed_eq_flatMap (m : Message) :
    hashed m = writingOrder.flatMap fun field => Utf8.encode (written m field) := by
  simp only [hashed_eq_encode, numbers, Utf8.encode_append, List.append_assoc]
  simp only [writingOrder, List.flatMap_cons, List.flatMap_nil, List.append_nil, written]

theorem mem_writingOrder (field : Message.Field) : field ∈ writingOrder := by
  cases field <;> decide

-- What is the same on both sides cancels, so the widths of the other parts do not matter.
theorem flatMap_eq_iff_of_one {α : Type} {f g : α → Bytes} {a : α} {list : List α} (hmem : a ∈ list)
    (hnodup : list.Nodup) (hsame : ∀ b ≠ a, f b = g b) :
    list.flatMap f = list.flatMap g ↔ f a = g a := by
  obtain ⟨before, after, rfl⟩ := List.append_of_mem hmem
  obtain ⟨hbefore, hafter⟩ : a ∉ before ∧ a ∉ after := by
    rw [List.nodup_middle, List.nodup_cons, List.mem_append, not_or] at hnodup
    exact hnodup.1
  have hfront : before.flatMap f = before.flatMap g :=
    List.flatMap_congr fun b hb => hsame b fun heq => hbefore (heq ▸ hb)
  have hback : after.flatMap f = after.flatMap g :=
    List.flatMap_congr fun b hb => hsame b fun heq => hafter (heq ▸ hb)
  rw [List.flatMap_append, List.flatMap_append, List.flatMap_cons, List.flatMap_cons, hfront, hback,
    List.append_cancel_left_eq, List.append_cancel_right_eq]

theorem written_eq_of_agree (h : m.Agree m' field) : written m field = written m' field := by
  cases field <;> (simp only [Message.Agree] at h; simp only [written, h])

-- Every field but the payload is written so that it can be read back.
theorem agree_of_written_eq (hfield : field ≠ .payload) (h : written m field = written m' field) :
    m.Agree m' field := by
  cases field with
  | kind => exact Int32.toInt_inj.mp (Decimal.ofInt_inj h)
  | sender => exact h
  | payload => exact absurd rfl hfield
  | ttl => exact Int32.toInt_inj.mp (Decimal.ofInt_inj h)
  | id => exact UInt64.toNat_inj.mp (Decimal.ofNat_inj h)
  | nonce => exact UInt64.toNat_inj.mp (Decimal.ofNat_inj h)

theorem hashed_eq_iff_written (h : m.DifferIn m' field) :
    hashed m = hashed m' ↔ written m field = written m' field := by
  have hnodup : writingOrder.Nodup := by decide
  have hsame : ∀ other ≠ field, Utf8.encode (written m other) = Utf8.encode (written m' other) :=
    fun other hne => congrArg _ (written_eq_of_agree ((h other).mpr hne))
  rw [hashed_eq_flatMap, hashed_eq_flatMap,
    flatMap_eq_iff_of_one (mem_writingOrder field) hnodup hsame]
  exact ⟨Utf8.encode_inj, congrArg _⟩

theorem hashed_eq_iff_shown (h : m.DifferIn m' field) :
    hashed m = hashed m' ↔ field = .payload ∧ Utf8.lossy m.payload = Utf8.lossy m'.payload := by
  have hdiffers : ¬m.Agree m' field := fun hagree => (h field).mp hagree rfl
  rw [hashed_eq_iff_written h]
  constructor
  · intro hwritten
    obtain rfl : field = .payload :=
      Decidable.byContradiction fun hne => hdiffers (agree_of_written_eq hne hwritten)
    exact ⟨rfl, hwritten⟩
  · rintro ⟨rfl, hshown⟩
    exact hshown

-- One field is changed. The stamp misses it if and only if it is the payload and the two
-- payloads show the same text, replacement characters included. Text shows itself, so text
-- is never taken for other text.
theorem change_missed_iff (h : m.DifferIn m' field) :
    (hashed m = hashed m' ↔ field = .payload ∧ Utf8.lossy m.payload = Utf8.lossy m'.payload) ∧
    (Utf8.lossy m.payload = Utf8.lossy m'.payload ↔
      ∃ text, Utf8.Shows m.payload text ∧ Utf8.Shows m'.payload text) ∧
    (field ≠ .payload → hashed m ≠ hashed m') ∧
    ∀ text text', m.payload = Utf8.encode text → m'.payload = Utf8.encode text' →
      hashed m ≠ hashed m' := by
  have hmissed := hashed_eq_iff_shown h
  refine ⟨hmissed, Utf8.lossy_eq_iff, fun hfield hsame => hfield (hmissed.mp hsame).1, ?_⟩
  intro text text' htext htext' hsame
  obtain ⟨rfl, hshown⟩ := hmissed.mp hsame
  have hagree : m.Agree m' .payload := by
    rw [htext, htext', Utf8.lossy_encode, Utf8.lossy_encode] at hshown
    rw [Message.Agree, htext, htext', hshown]
  exact (h .payload).mp hagree rfl

section Example

def carrying (payload : Bytes) : Message :=
  { payload }

theorem differIn_payload {a b : Bytes} (h : a ≠ b) :
    (carrying a).DifferIn (carrying b) .payload := by
  intro other
  cases other <;> simp [Message.Agree, carrying, h]

-- A byte that is never text and the first byte of a character that does not come are shown
-- alike, and text is not shown like other text.
theorem binary_change_missed :
    hashed (carrying [0xFF]) = hashed (carrying [0xC3]) ∧
    hashed (carrying [65]) ≠ hashed (carrying [66]) := by
  have hshown : Utf8.lossy [0xFF] = Utf8.lossy [0xC3] := by decide
  have hbinary : ([0xFF] : Bytes) ≠ [0xC3] := by decide
  have htexts : ([65] : Bytes) ≠ [66] := by decide
  obtain ⟨hmissed, _⟩ := change_missed_iff (differIn_payload hbinary)
  obtain ⟨_, _, _, hseen⟩ := change_missed_iff (differIn_payload htexts)
  exact ⟨hmissed.mpr ⟨rfl, hshown⟩, hseen "A" "B" (by decide) (by decide)⟩

end Example

end Stamp

end Rumor
