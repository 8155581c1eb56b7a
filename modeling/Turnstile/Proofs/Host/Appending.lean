import Mathlib.Tactic.SplitIfs
import Turnstile.Host.FileTree

/-!
# Files that are opened again

A path leads to the same place as long as no directory is lost (`FileTree.KeepsDirectories`), since
`FileTree.walk` looks at the directories on its way and nothing else. Neither to open a file for
writing nor to add to it takes a directory away.

A file that a path leads to (`FileTree.FileAt`) is opened, read and added to by that path:
`FileAt.openForWriting`, `FileAt.read` and `FileAt.append`. What is opened is such a file
(`fileAt_of_openForWriting`).
-/

namespace Turnstile.FileTree

variable {t t₁ t₂ t₃ opened : FileTree} {workdir place : Place} {path : String} {content : Bytes}

/-! ### What places hold -/

/-- The root is a directory in every tree. -/
theorem node?_nil (t : FileTree) : t.node? [] = some .directory := rfl

/-- So what is not a directory is not the root. -/
theorem ne_nil_of_ne_directory (h : t.node? place ≠ some .directory) : place ≠ [] := by
  rintro rfl
  exact h t.node?_nil

/-- A node is where it was put. -/
theorem node?_put_self (h : place ≠ []) (t : FileTree) (node : FileNode) :
    (t.put place node).node? place = some node := by
  simp [node?, put, h]

/-- Every other place holds what it held. -/
theorem node?_put_of_ne {p : Place} (h : p ≠ place) (t : FileTree) (node : FileNode) :
    (t.put place node).node? p = t.node? p := by
  have hfind : (t.nodes.filter (·.1 != place)).find? (·.1 == p) = t.nodes.find? (·.1 == p) := by
    rw [List.find?_filter]
    congr 1
    funext n
    by_cases hn : n.1 = p
    · simp [hn, h]
    · simp [hn]
  have hhead : (place == p) = false := by simpa using h.symm
  simp [node?, put, hhead, hfind]

/-! ### Directories that are kept -/

/-- Every directory of the first tree is one of the second. -/
def KeepsDirectories (t t' : FileTree) : Prop :=
  ∀ p, t.node? p = some .directory → t'.node? p = some .directory

/-- A node that is put where no directory was takes none away. -/
theorem keepsDirectories_put (h : t.node? place ≠ some .directory) (node : FileNode) :
    KeepsDirectories t (t.put place node) := by
  intro p hp
  have hne : p ≠ place := by
    rintro rfl
    exact h hp
  rw [node?_put_of_ne hne, hp]

/-- All places that a walk leaves behind are directories, and a walk looks at nothing else. -/
theorem walk_of_keepsDirectories (h : KeepsDirectories t₁ t₂) {start goal : Place}
    {names : List String} (hwalk : t₁.walk start names = .ok goal) :
    t₂.walk start names = .ok goal := by
  induction names generalizing start with
  | nil => exact hwalk
  | cons name names ih =>
      rw [walk] at hwalk ⊢
      cases hnode : t₁.node? start with
      | none => simp [hnode] at hwalk
      | some node =>
          cases node with
          | file content => simp [hnode] at hwalk
          | directory =>
              rw [hnode] at hwalk
              rw [h start hnode]
              dsimp only at hwalk ⊢
              split_ifs at hwalk ⊢
              · exact ih hwalk
              · exact ih hwalk
              · exact ih hwalk

/-- A path leads to the same place where directories were kept. -/
theorem locate_of_keepsDirectories (h : KeepsDirectories t₁ t₂)
    (hlocate : t₁.locate workdir path = .ok place) : t₂.locate workdir path = .ok place := by
  unfold locate at hlocate ⊢
  split_ifs at hlocate ⊢
  all_goals exact walk_of_keepsDirectories h hlocate

/-! ### Files that paths lead to -/

/-- The path leads to a place, and a file with the given content is there. -/
structure FileAt (t : FileTree) (workdir : Place) (path : String) (place : Place)
    (content : Bytes) : Prop where
  locate : t.locate workdir path = .ok place
  node : t.node? place = some (.file content)

/-- A place that holds a file holds no directory. -/
theorem FileAt.ne_directory (h : FileAt t workdir path place content) :
    t.node? place ≠ some .directory := by
  rw [h.node]
  simp

/-- A file that is there is opened as it is, and the tree stays the same. -/
theorem FileAt.openForWriting (h : FileAt t workdir path place content) :
    t.openForWriting workdir path = .ok (place, t) := by
  unfold FileTree.openForWriting
  rw [h.locate]
  simp only [bind, Except.bind, h.node]
  rfl

/-- It is read by the path that leads to it. -/
theorem FileAt.read (h : FileAt t workdir path place content) :
    t.read workdir path = .ok content := by
  unfold FileTree.read find
  rw [h.locate]
  simp only [bind, Except.bind, h.node]
  rfl

/-- A file with another content is found by the same path. -/
theorem fileAt_put (hlocate : t.locate workdir path = .ok place)
    (hnode : t.node? place ≠ some .directory) (content : Bytes) :
    FileAt (t.put place (.file content)) workdir path place content where
  locate := locate_of_keepsDirectories (keepsDirectories_put hnode _) hlocate
  node := node?_put_self (ne_nil_of_ne_directory hnode) t _

/-- What is added to it stands behind what it had, and the same path leads there. -/
theorem FileAt.append (h : FileAt t workdir path place content) (data : Bytes) :
    FileAt (t.append place data) workdir path place (content ++ data) := by
  unfold FileTree.append
  rw [h.node]
  exact fileAt_put h.locate h.ne_directory _

/-- A file that is opened has what it had, and nothing if it was missing. -/
theorem fileAt_of_openForWriting (h : t.openForWriting workdir path = .ok (place, opened)) :
    ∃ content, FileAt opened workdir path place content ∧
      (t.read workdir path = .ok content ∨
        t.read workdir path = .error .notFound ∧ content = []) := by
  unfold FileTree.openForWriting at h
  cases hlocate : t.locate workdir path with
  | error e => simp [hlocate, bind, Except.bind] at h
  | ok p =>
      simp only [hlocate, bind, Except.bind] at h
      cases hnode : t.node? p with
      | none =>
          simp only [hnode, pure, Except.pure, Except.ok.injEq, Prod.mk.injEq] at h
          obtain ⟨rfl, rfl⟩ := h
          refine ⟨[], fileAt_put hlocate (by simp [hnode]) [], .inr ⟨?_, rfl⟩⟩
          unfold FileTree.read find
          simp only [hlocate, bind, Except.bind, hnode]
          rfl
      | some node =>
          cases node with
          | directory => simp [hnode] at h
          | file content =>
              simp only [hnode, pure, Except.pure, Except.ok.injEq, Prod.mk.injEq] at h
              obtain ⟨rfl, rfl⟩ := h
              have hfile : FileAt t workdir path p content := ⟨hlocate, hnode⟩
              exact ⟨content, hfile, .inl hfile.read⟩

end Turnstile.FileTree
