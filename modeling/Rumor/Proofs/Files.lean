import Rumor.Files

-- What was saved is what is read.
namespace Rumor.Files

variable {fs fs' : Files} {path : String} {bytes : Bytes} {place target : Place}

-- Whether a path leads to a sink, so that nothing is kept of what is written there.
def swallows (fs : Files) (path : String) : Bool :=
  match fs.follow path (names path) with
  | .ok place => fs.isSink place
  | .error _ => false

theorem isDirectory_put (fs : Files) (place : Place) (bytes : Bytes) :
    (fs.put place bytes).isDirectory = fs.isDirectory := by
  unfold put
  split <;> rfl

theorem isSink_put (fs : Files) (place : Place) (bytes : Bytes) :
    (fs.put place bytes).isSink = fs.isSink := by
  unfold put
  split <;> rfl

theorem origin_put (fs : Files) (place : Place) (bytes : Bytes) :
    (fs.put place bytes).origin = fs.origin := by
  unfold put
  split <;> rfl

theorem contents?_put (fs : Files) (place : Place) (bytes : Bytes) :
    (fs.put place bytes).contents? place = some (if fs.isSink place then [] else bytes) := by
  rw [contents?, isSink_put]
  split
  · rfl
  · rename_i hsink
    simp [put, hsink]

-- A way that leads somewhere goes through directories, and a file that is written is none.
theorem walk_put {names : List String} (h : fs.walk place names = .ok target) (at_ : Place)
    (bytes : Bytes) : (fs.put at_ bytes).walk place names = .ok target := by
  induction names generalizing place with
  | nil => exact h
  | cons name rest ih =>
      unfold walk at h ⊢
      rw [isDirectory_put]
      split at h
      · rename_i hdirectory
        rw [if_pos hdirectory]
        split at h
        · cases h
        · rename_i hshort
          rw [if_neg hshort]
          exact ih h
      · split at h <;> cases h

theorem follow_put {names : List String} (h : fs.follow path names = .ok target) (at_ : Place)
    (bytes : Bytes) : (fs.put at_ bytes).follow path names = .ok target := by
  unfold follow at h ⊢
  split at h
  · cases h
  · rw [origin_put]
    exact walk_put h at_ bytes

theorem write_eq_ok (h : fs.write path bytes = .ok fs') : namesDirectory path = false ∧
    ∃ place, fs.follow path (names path) = .ok place ∧ fs.isDirectory place = false ∧
      fs' = fs.put place bytes := by
  unfold write at h
  dsimp only at h
  split at h
  · cases h
  · rename_i place hfollow
    split at h
    · cases h
    · rename_i hopen
      obtain ⟨hfile, hplace⟩ : namesDirectory path = false ∧ fs.isDirectory place = false := by
        simpa using hopen
      rw [hfile] at hfollow
      exact ⟨hfile, place, hfollow, hplace, (Except.ok.inj h).symm⟩

theorem read_of_write (h : fs.write path bytes = .ok fs') :
    fs'.read path = .ok (if fs'.swallows path then [] else bytes) := by
  obtain ⟨hfile, place, hfollow, hplace, rfl⟩ := write_eq_ok h
  have hway := follow_put hfollow place bytes
  rw [read, swallows, hway]
  simp [isDirectory_put, isSink_put, contents?_put, hplace, hfile]

-- Directories that were made on the way make no difference.
theorem read_of_save (h : fs.save path bytes = (none, fs')) :
    fs'.read path = .ok (if fs'.swallows path then [] else bytes) := by
  unfold save at h
  split at h
  · cases h
  · split at h
    · cases h
    · rename_i hwrite
      obtain ⟨_, rfl⟩ := Prod.mk.inj h
      exact read_of_write hwrite

end Rumor.Files
