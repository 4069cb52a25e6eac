import LispEditor.Files.Tree
import Mathlib.Tactic.SplitIfs

set_option autoImplicit false
set_option relaxedAutoImplicit false

/-!
# Reading what was written

A file that was written is found at its path, and it reads as the text that was written. The write
changes nothing on the way there: all that the path leads through are directories, and what it
writes to is none. Where the system denies writing, no write succeeds.
-/

namespace LispEditor

theorem exists_ok_of_bind {ε α β : Type} {x : Except ε α} {f : α → Except ε β} {b : β}
    (h : x >>= f = .ok b) : ∃ a, x = .ok a ∧ f a = .ok b := by
  cases x with
  | error e => cases h
  | ok a => exact ⟨a, rfl, h⟩

namespace FileTree

variable {t : FileTree} {l m : Location}

private theorem lookup_filter_of_ne (nodes : List (Location × FileNode)) (other : m ≠ l) :
    (nodes.filter (·.1 != l)).lookup m = nodes.lookup m := by
  induction nodes with
  | nil => rfl
  | cons entry nodes ih =>
      obtain ⟨k, n⟩ := entry
      by_cases dropped : k = l
      · have passed : (m == l) = false := by simpa using other
        simp [dropped, List.lookup_cons, passed, ih]
      · simp [dropped, List.lookup_cons, ih]

private theorem node?_put_of_ne (n : FileNode) (other : m ≠ l) :
    (t.put l n).node? m = t.node? m := by
  have passed : (m == l) = false := by simpa using other
  simp only [node?, put, List.lookup_cons, passed, lookup_filter_of_ne _ other]

private theorem node?_put_self (n : FileNode) (inside : l.isTop = false) :
    (t.put l n).node? l = some n := by
  simp [node?, put, inside]

/-- What is no directory is not on the way of a path, so that a node put in its place does not
change where the path leads. -/
theorem follow_put (n : FileNode) (free : t.node? m ≠ some .directory) {names : List String}
    {here : Location} (found : t.follow here names = .ok l) :
    (t.put m n).follow here names = .ok l := by
  induction names generalizing here with
  | nil => exact found
  | cons name names ih =>
      unfold follow at found
      split at found
      · rename_i directory
        split_ifs at found with long
        have other : here ≠ m := by
          rintro rfl
          exact free directory
        rw [follow, node?_put_of_ne n other, directory]
        simp only [if_neg long]
        exact ih found
      · cases found
      · cases found

private theorem exists_put_of_write {path text : String} {u : FileTree}
    (done : t.write path text = .ok u) :
    ∃ (p : Path) (l : Location), pathOf path = .ok p ∧ p.directory = false ∧ t.locate p = .ok l ∧
      t.node? l ≠ some .directory ∧ t.denial? l = none ∧ u = t.put l (.file text.toUTF8) := by
  obtain ⟨p, named, done⟩ := exists_ok_of_bind done
  by_cases directory : p.directory = true
  · rw [if_pos directory] at done
    obtain ⟨l, -, done⟩ := exists_ok_of_bind done
    cases done
  · rw [if_neg directory] at done
    obtain ⟨l, located, done⟩ := exists_ok_of_bind done
    have file : p.directory = false := eq_false_of_ne_true directory
    split at done
    · cases done
    · cases done
    · rename_i permitted free
      exact ⟨p, l, named, file, located, free, permitted, (Except.ok.inj done).symm⟩

theorem exists_error_of_deny (t : FileTree) (reason path text : String) :
    ∃ cause, (t.deny reason).write path text = .error cause := by
  rcases answer : (t.deny reason).write path text with cause | u
  · exact ⟨cause, rfl⟩
  · obtain ⟨-, l, -, -, -, -, permitted, -⟩ := exists_put_of_write answer
    cases permitted

private theorem find_of_write {path text : String} {u : FileTree}
    (done : t.write path text = .ok u) :
    u.find path = .ok (.file text.toUTF8) := by
  obtain ⟨p, l, named, file, located, free, -, rfl⟩ := exists_put_of_write done
  have inside : l.isTop = false := by
    rw [← Bool.not_eq_true]
    intro top
    exact free (if_pos top)
  have again : (t.put l (.file text.toUTF8)).locate p = .ok l := follow_put _ free located
  simp only [find, named, again, node?_put_self _ inside, file, bind, Except.bind,
    Bool.false_eq_true, if_false]

theorem hasPath_of_write {path text : String} {u : FileTree} (done : t.write path text = .ok u) :
    u.hasPath path = true := by
  rw [hasPath, find_of_write done]

theorem read_of_write {path text : String} {u : FileTree} (done : t.write path text = .ok u) :
    u.read path = .ok text := by
  have decoded : String.fromUTF8? text.toUTF8 = some text := dif_pos text.isValidUTF8
  simp only [read, find_of_write done, decoded, bind, Except.bind]

end FileTree

end LispEditor
