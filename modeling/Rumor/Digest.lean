import Rumor.Bytes

namespace Rumor

-- A digest that takes its input in pieces. How the input is cut makes no
-- difference, so the state after a common beginning can be kept and used again.
structure Digest where
  State : Type
  start : State
  absorb : State → Bytes → State
  finish : State → Bytes
  absorb_append : ∀ s a b, absorb s (a ++ b) = absorb (absorb s a) b

namespace Digest

def hash (d : Digest) (bytes : Bytes) : Bytes :=
  d.finish (d.absorb d.start bytes)

-- Any function of the bytes is a digest.
def ofFunction (f : Bytes → Bytes) : Digest where
  State := Bytes
  start := []
  absorb := (· ++ ·)
  finish := f
  absorb_append := fun s a b => (List.append_assoc s a b).symm

theorem hash_ofFunction (f : Bytes → Bytes) (bytes : Bytes) : (ofFunction f).hash bytes = f bytes :=
  rfl

theorem hash_append (d : Digest) (a b : Bytes) :
    d.hash (a ++ b) = d.finish (d.absorb (d.absorb d.start a) b) := by
  rw [hash, d.absorb_append]

end Digest

end Rumor
