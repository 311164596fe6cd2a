import Noticeboard.Proofs.OwnTrigrams
import Noticeboard.Proofs.ReadBack

/-!
# Names of created categories

A new name is lower-cased before it is stored, and a category has to be found by the name it was
created with.  A database file of the program's own looks for a name in the form in which it would
be stored.  A server lower-cases both names by itself, so that a category is found there exactly if
the server's lower case of the given name is what the program has stored: for every name if both
lower-case alike, and for every name without a capital sigma at the end of a word if the server maps
each character on its own.
-/

namespace Noticeboard

open Store

variable {τ : Type}

namespace Text

end Text

namespace Store

variable {session next : Session τ} {db after : Database τ} {draft : CategoryDraft}
  {category : Category} {lowerText : String → String}

/-- Where names are compared with a key, a category is found by the name that it was created with
exactly if that is stored as the key. -/
theorem found_after_creation_iff {key : String} (hdb : db.Consistent)
    (hcreated : (createCategory draft session db).Yields category after)
    (hkeeps : session.backend.Keeps session.now) (hnext : next.backend = session.backend)
    (hkey : ∀ row ∈ after.categories,
      session.backend.sameName row.name draft.name = (row.name == key)) :
    (findCategoryByName draft.name next after).answer = .ok category ↔
      storedName draft.name = key := by
  obtain ⟨-, -, hfresh, hfree, rfl, rfl⟩ := insertCategory_yields_iff.mp hcreated
  let created : CategoryRow τ := ⟨session.ids.category, storedName draft.name, draft.description,
    session.stamp, session.stamp⟩
  have hafter : ({ db with categories := db.categories ++ [created] } : Database τ).Consistent :=
    @Database.Consistent.addCategory _ _ hdb created hfresh hfree
  rw [← hnext] at hkey
  rw [findCategoryByName_eq_ok_iff hafter.categoryNames hkey]
  constructor
  · rintro ⟨row, hrow, rfl, hread⟩
    exact (readCategory_eq_ok hread).2
  · intro hsame
    refine ⟨created, List.mem_append_right _ List.mem_cons_self, hsame, ?_⟩
    rw [hnext]
    exact readCategory_eq_ok_iff.mpr ⟨_, _, hkeeps "created_at", hkeeps "updated_at", rfl⟩

end Store

/-! ## Runs -/

namespace Board

variable {turns : List Turn} {turn : Turn} {draft : CategoryDraft} {category : Category}

/-- In a file of its own a category is found by the name that it was created with. -/
theorem created_is_found {board : Board String} {after : Database String}
    (hbackend : board.backend = .embedded)
    (hyear : 0 ≤ turn.now.date.year ∧ turn.now.date.year ≤ 9999)
    (hleap : turn.now.nano < 1000000000 ∨ turn.now.second = 59)
    (hcreated : (createCategory draft (board.session turn) (board.run .empty turns)).Yields
      category after) {next : Session String} (hnext : next.backend = board.backend) :
    (findCategoryByName draft.name next after).answer = .ok category := by
  have hkeeps : board.backend.Keeps turn.now := hbackend ▸ Backend.keeps_embedded hyear hleap
  have hkey : ∀ row ∈ after.categories,
      board.backend.sameName row.name draft.name = (row.name == storedName draft.name) := by
    intro row _
    rw [hbackend]
    rfl
  exact (found_after_creation_iff (run_consistent .empty turns) hcreated hkeeps hnext hkey).mpr rfl

end Board
end Noticeboard
