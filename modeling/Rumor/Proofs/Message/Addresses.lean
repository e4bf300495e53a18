import Rumor.Proofs.Message
import Rumor.Proofs.Record.RoundTrip

-- The addresses that a list response carries are read as they were given, whatever they
-- look like.
namespace Rumor.Message

variable {m : Message} {kind : Kind} {list : List String}

-- What a record says is what its message said, unless it is too long to be looked into.
theorem addresses_of_record (hkind : m.kind? = some kind) (h : m.addresses = .ok list) :
    (Record.decode (Record.encode m)).bind addresses =
      if (Record.encode m).length ≤ Record.maxSize then .ok list
      else .error (.tooLarge (Record.encode m).length Record.maxSize) := by
  split
  · rename_i hsize
    rw [Record.decode_encode_of_kind hkind hsize]
    exact h
  · rename_i hsize
    rw [Record.decode_of_maxSize_lt (Nat.not_le.mp hsize)]
    rfl

-- The nonce is filled in when the response is stamped.
theorem addresses_as_given (id : MessageId) (sender : String) (list : List String) :
    (listResponse id sender list).addresses = .ok list ∧
      ∀ nonce, let response := { listResponse id sender list with nonce }
        response.addresses = .ok list ∧
          (Record.decode (Record.encode response)).bind addresses =
            if (Record.encode response).length ≤ Record.maxSize then .ok list
            else .error (.tooLarge (Record.encode response).length Record.maxSize) := by
  refine ⟨addresses_of_payload rfl, fun nonce => ?_⟩
  have hresponse : ({ listResponse id sender list with nonce } : Message).addresses = .ok list :=
    addresses_of_payload rfl
  have hkind : ({ listResponse id sender list with nonce } : Message).kind? = some .listResponse :=
    rfl
  exact ⟨hresponse, addresses_of_record hkind hresponse⟩

-- Nothing, the same name twice, what would end a text or the list, what is written as an
-- escape or looks like one, and characters of two to four bytes.
def awkward : List String :=
  ["", "b", "b", "\"\\", "\",\"", "]", "\x00\x1f\x7f", "\n\t\\u0041", "é€😀"]

theorem awkward_addresses_fit :
    (Record.encode (listResponse 7 "a" awkward)).length ≤ Record.maxSize ∧
      (Record.decode (Record.encode (listResponse 7 "a" awkward))).bind addresses =
        .ok awkward := by
  have hsize : (Record.encode (listResponse 7 "a" awkward)).length ≤ Record.maxSize :=
    Record.length_encode_le_maxSize (by decide)
  obtain ⟨_, hrecord⟩ := (addresses_as_given 7 "a" awkward).2 0
  exact ⟨hsize, hrecord.trans (if_pos hsize)⟩

end Rumor.Message
