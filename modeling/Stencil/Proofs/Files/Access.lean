import Stencil.Files.Basic

namespace Stencil.Files

/-! Reading and writing files.

What can be read is there, and a write that succeeds changes the one place that its path leads to.
-/

variable {files after : Files} {path text : String}

theorem isThere_of_read (read : files.read path = .ok text) : files.isThere path = true := by
  rw [Files.read] at read
  cases located : files.locate path with
  | error fault => simp [located, bind, Except.bind] at read
  | ok place =>
      rw [isThere, located, bne_iff_ne]
      intro nothing
      simp [located, bind, Except.bind, nothing, throw, throwThe, MonadExceptOf.throw] at read

/-- The file that the path leads to holds the text, and nothing else is changed. -/
theorem write_spec (written : files.write path text = .ok after) :
    ∃ place, files.locate path = .ok place ∧ after.content place = .text text ∧
      ∀ other, other ≠ place → after.content other = files.content other := by
  rw [write] at written
  split at written
  · cases written
  · next place located =>
      split at written
      · cases written
      · split at written
        · cases written
        · cases written
          exact ⟨place, located, if_pos rfl, fun other different => if_neg different⟩

end Stencil.Files
