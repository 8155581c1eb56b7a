import Mathlib.Data.List.Lex
import Mathlib.Data.List.Sort
import Mathlib.Data.Prod.Lex
import Mathlib.Data.String.Basic
import Mathlib.Tactic.SplitIfs
import Turnstile.Host.Expansion

/-!
# Paths in ascending order

Paths are compared by their keys. With the rank of each component beside it the order of keys is
the lexicographic one (`Path.le_iff`), so it is total, and two paths that are below each other have
the same key.

`Path.IsListing paths listing` says that a list holds, in strictly ascending order, one path for
each key among some paths. `Path.sortUnique` makes such a list (`isListing_sortUnique`), and the
keys in it depend on the set of keys alone (`IsListing.map_key_eq`).

What a path leads to is up to its key as well, as long as it leads to a file: the pieces that a key
leaves out stand for the directory that the walk is in (`FileTree.walk_components`), so two paths of
one key lead to the same file (`FileTree.find_eq_of_key_eq`). Of paths that lead nowhere this is not
true, since `a/` and `a` have the same key.
-/

namespace Turnstile

namespace Path

/-! ### The order of keys -/

/-- A component behind its rank. -/
def ranked (name : String) : ℕ ×ₗ String := toLex (rank name, name)

/-- The rank of a component says which component it is. -/
theorem ranked_injective : Function.Injective ranked := by
  intro x y h
  exact congrArg (fun pair => (ofLex pair).2) h

/-- Components are ordered by their rank, and those of one rank by their text. -/
theorem ranked_lt_ranked {x y : String} :
    ranked x < ranked y ↔ rank x < rank y ∨ rank x = rank y ∧ x < y :=
  Prod.Lex.toLex_lt_toLex

/-- Keys are compared component by component. -/
theorem keyLe_iff (xs ys : List String) : keyLe xs ys ↔ ¬ ys.map ranked < xs.map ranked := by
  induction xs generalizing ys with
  | nil => simp [keyLe]
  | cons x xs ih =>
      cases ys with
      | nil => simp [keyLe]
      | cons y ys =>
          rw [keyLe, List.map_cons, List.map_cons, List.cons_lt_cons_iff]
          by_cases hxy : x = y
          · simp [hxy, ih]
          · have hne : ranked y ≠ ranked x := fun h => hxy (ranked_injective h).symm
            rw [if_neg (by simpa using hxy)]
            simp only [Bool.or_eq_true, Bool.and_eq_true, decide_eq_true_eq, beq_iff_eq, hne,
              false_and, or_false, ← ranked_lt_ranked]
            exact ⟨fun h => h.asymm, fun h => lt_of_le_of_ne (not_lt.mp h) hne.symm⟩

/-- The key of a path, each component behind its rank. -/
def ranks (path : String) : List (ℕ ×ₗ String) := (key path).map ranked

/-- Paths of the same ranks have the same key. -/
theorem ranks_eq_iff {p q : String} : ranks p = ranks q ↔ key p = key q :=
  (List.map_injective_iff.mpr ranked_injective).eq_iff

/-- Paths are ordered by their ranks. -/
theorem le_iff {p q : String} : le p q ↔ ranks p ≤ ranks q := (keyLe_iff _ _).trans not_lt

/-- The first path is below the second, and has another key. -/
def Before (p q : String) : Prop := le p q ∧ key p ≠ key q

/-- A path stands before another if its ranks are less. -/
theorem before_iff {p q : String} : Before p q ↔ ranks p < ranks q := by
  rw [Before, le_iff, ← ranks_eq_iff.ne, lt_iff_le_and_ne]

/-! ### Listings -/

/-- The list holds one of the paths for each of their keys, in strictly ascending order. -/
structure IsListing (paths listing : List String) : Prop where
  ascending : listing.Pairwise Before
  subset : listing ⊆ paths
  covers : ∀ p ∈ paths, ∃ q ∈ listing, key q = key p

variable {paths paths₁ paths₂ listing listing₁ listing₂ : List String} {p q : String}

/-- No paths have an empty listing. -/
theorem isListing_nil : IsListing [] [] where
  ascending := .nil
  subset := List.Subset.refl _
  covers := by simp

/-- A listing has the keys of its paths. -/
theorem IsListing.mem_map_key_iff (h : IsListing paths listing) {k : List String} :
    k ∈ listing.map key ↔ k ∈ paths.map key := by
  constructor
  · intro hk
    exact List.map_subset key h.subset hk
  · intro hk
    obtain ⟨p, hp, rfl⟩ := List.mem_map.mp hk
    obtain ⟨q, hq, hkey⟩ := h.covers p hp
    exact List.mem_map.mpr ⟨q, hq, hkey⟩

/-- Puts a path in front, in place of a first one of the same key. -/
def keepOnce (p : String) : List String → List String
  | q :: rest => if key p == key q then p :: rest else p :: q :: rest
  | [] => [p]

/-- Paths are sorted, and then each is kept once. -/
theorem sortUnique_eq (paths : List String) :
    sortUnique paths = (paths.mergeSort le).foldr keepOnce [] := by
  rw [sortUnique]
  congr 1
  funext p kept
  cases kept with
  | nil => rfl
  | cons q rest => rfl

/-- A path before all others is listed before them. -/
theorem IsListing.cons (h : IsListing paths listing) (hp : ∀ q ∈ listing, Before p q) :
    IsListing (p :: paths) (p :: listing) where
  ascending := List.pairwise_cons.mpr ⟨hp, h.ascending⟩
  subset := List.cons_subset_cons _ h.subset
  covers := by
    intro a ha
    rcases List.mem_cons.mp ha with rfl | ha
    · exact ⟨a, List.mem_cons_self, rfl⟩
    · obtain ⟨b, hb, hkey⟩ := h.covers a ha
      exact ⟨b, List.mem_cons_of_mem _ hb, hkey⟩

/-- Another spelling takes the place of the first path. -/
theorem IsListing.respell (h : IsListing paths (q :: listing)) (hkey : key p = key q) :
    IsListing (p :: paths) (p :: listing) where
  ascending := by
    obtain ⟨hq, hlisting⟩ := List.pairwise_cons.mp h.ascending
    refine List.pairwise_cons.mpr ⟨fun r hr => ?_, hlisting⟩
    rw [before_iff, ranks_eq_iff.mpr hkey]
    exact before_iff.mp (hq r hr)
  subset := List.cons_subset_cons _ fun r hr => h.subset (List.mem_cons_of_mem _ hr)
  covers := by
    intro a ha
    rcases List.mem_cons.mp ha with rfl | ha
    · exact ⟨a, List.mem_cons_self, rfl⟩
    · obtain ⟨b, hb, hbkey⟩ := h.covers a ha
      rcases List.mem_cons.mp hb with rfl | hb
      · exact ⟨p, List.mem_cons_self, hkey.trans hbkey⟩
      · exact ⟨b, List.mem_cons_of_mem _ hb, hbkey⟩

/-- A path that is not above any other joins their listing in front. -/
theorem IsListing.keepOnce (h : IsListing paths listing) (hle : ∀ q ∈ paths, le p q) :
    IsListing (p :: paths) (keepOnce p listing) := by
  cases listing with
  | nil => exact h.cons (List.forall_mem_nil _)
  | cons q rest =>
      by_cases hkey : key p = key q
      · rw [Path.keepOnce, if_pos (by simpa using hkey)]
        exact h.respell hkey
      · rw [Path.keepOnce, if_neg (by simpa using hkey)]
        have hbefore : Before p q := ⟨hle q (h.subset List.mem_cons_self), hkey⟩
        refine h.cons fun r hr => ?_
        rcases List.mem_cons.mp hr with rfl | hr
        · exact hbefore
        · have hr' : Before q r := (List.pairwise_cons.mp h.ascending).1 r hr
          exact before_iff.mpr ((before_iff.mp hbefore).trans (before_iff.mp hr'))

/-- Sorted paths of which each is kept once are a listing. -/
theorem isListing_foldr_keepOnce (h : paths.Pairwise fun p q => le p q) :
    IsListing paths (paths.foldr keepOnce []) := by
  induction paths with
  | nil => exact isListing_nil
  | cons p paths ih =>
      obtain ⟨hle, hrest⟩ := List.pairwise_cons.mp h
      exact (ih hrest).keepOnce hle

/-- **Sorting without repetition**: the list is strictly ascending, and it has each path in one
of its spellings. -/
theorem isListing_sortUnique (paths : List String) : IsListing paths (sortUnique paths) := by
  have hsorted : (paths.mergeSort le).Pairwise fun p q => le p q := by
    refine List.pairwise_mergeSort (fun p q r hpq hqr => ?_) (fun p q => ?_) paths
    · exact le_iff.mpr ((le_iff.mp hpq).trans (le_iff.mp hqr))
    · rw [Bool.or_eq_true, le_iff, le_iff]
      exact le_total _ _
  have h := isListing_foldr_keepOnce hsorted
  rw [← sortUnique_eq] at h
  exact ⟨h.ascending, fun p hp => List.mem_mergeSort.mp (h.subset hp),
    fun p hp => h.covers p (List.mem_mergeSort.mpr hp)⟩

example : sortUnique ["a//c", "a/c"] = ["a//c"] := by cbv

/-- Listings of paths with the same keys agree, up to the spelling of their paths. -/
theorem IsListing.map_key_eq (h₁ : IsListing paths₁ listing₁) (h₂ : IsListing paths₂ listing₂)
    (hkeys : ∀ k, k ∈ paths₁.map key ↔ k ∈ paths₂.map key) :
    listing₁.map key = listing₂.map key := by
  have hsorted : ∀ {paths listing}, IsListing paths listing →
      ((listing.map key).map (List.map ranked)).Pairwise (· < ·) := by
    intro paths listing h
    rw [List.map_map, List.pairwise_map]
    exact h.ascending.imp before_iff.mp
  have hinjective : Function.Injective (List.map ranked) :=
    List.map_injective_iff.mpr ranked_injective
  have hmem : ∀ k, k ∈ (listing₁.map key).map (List.map ranked) ↔
      k ∈ (listing₂.map key).map (List.map ranked) := by
    intro k
    simp only [List.mem_map (f := List.map ranked), h₁.mem_map_key_iff, h₂.mem_map_key_iff, hkeys]
  exact List.map_injective_iff.mpr hinjective
    ((hsorted h₁).eq_of_mem_iff (hsorted h₂) hmem)

/-- What is a matter of keys is the same along listings with the same keys. -/
theorem map_eq_of_map_key_eq {α : Type} {f : String → α}
    (hkeys : listing₁.map key = listing₂.map key)
    (hf : ∀ p ∈ listing₁, ∀ q ∈ listing₂, key p = key q → f p = f q) :
    listing₁.map f = listing₂.map f := by
  induction listing₁ generalizing listing₂ with
  | nil => rw [List.map_eq_nil_iff.mp hkeys.symm]
  | cons p rest ih =>
      cases listing₂ with
      | nil => cases hkeys
      | cons q rest' =>
          obtain ⟨hkey, hrest⟩ := List.cons.inj hkeys
          have hhead : f p = f q := hf p List.mem_cons_self q List.mem_cons_self hkey
          have htail : rest.map f = rest'.map f := ih hrest fun a ha b hb =>
            hf a (List.mem_cons_of_mem _ ha) b (List.mem_cons_of_mem _ hb)
          rw [List.map_cons, List.map_cons, hhead, htail]

/-! ### What a key tells -/

/-- No path begins with an empty component. -/
theorem head?_components_ne (path : String) : (components path).head? ≠ some "" := by
  unfold components
  dsimp only
  split
  · simp
  · intro h
    rw [List.head?_filter] at h
    simpa using List.find?_some h

/-- The key of a path says whether it is absolute, and what its components are. -/
theorem isAbsolute_eq_and_components_eq (h : key p = key q) :
    isAbsolute p = isAbsolute q ∧ components p = components q := by
  have hp := head?_components_ne p
  have hq := head?_components_ne q
  unfold key at h
  split_ifs at h with hpabs hqabs hqabs
  · exact ⟨hpabs.trans hqabs.symm, by simpa using h⟩
  · simp [← show _ = components q by simpa using h] at hq
  · simp [show components p = _ by simpa using h] at hp
  · exact ⟨by simp_all, by simpa using h⟩

/-- Paths of one key have one stem. -/
theorem stem_eq_of_key_eq (h : key p = key q) : stem p = stem q := by
  unfold stem fileName?
  rw [(isAbsolute_eq_and_components_eq h).2]

end Path

/-! ### Files of one key -/

namespace FileTree

variable {t : FileTree} {cwd place goal : Place} {p q : String}

/-- Empty pieces and dots stay in the directory that the walk is in. -/
theorem walk_filter {pieces : List String} (h : t.walk place pieces = .ok goal) :
    t.walk place (pieces.filter fun p => p ≠ "" && p ≠ ".") = .ok goal := by
  induction pieces generalizing place with
  | nil => exact h
  | cons name rest ih =>
      rw [walk] at h
      cases hnode : t.node? place with
      | none => simp [hnode] at h
      | some node =>
          cases node with
          | file content => simp [hnode] at h
          | directory =>
              simp only [hnode] at h
              by_cases hblank : name = "" ∨ name = "."
              · rw [if_pos (by simpa using hblank)] at h
                rw [List.filter_cons_of_neg (by simpa [or_iff_not_imp_left] using hblank)]
                exact ih h
              · rw [if_neg (by simpa using hblank)] at h
                rw [List.filter_cons_of_pos (by simpa using hblank), walk, hnode]
                simp only
                rw [if_neg (by simpa using hblank)]
                split_ifs at h ⊢
                · exact ih h
                · exact ih h

/-- A walk along the pieces of a path arrives where its components lead. -/
theorem walk_components (path : String)
    (h : t.walk place ((Path.splitSlashes path.toList).map String.ofList) = .ok goal) :
    t.walk place (Path.components path) = .ok goal := by
  unfold Path.components
  dsimp only
  split
  case h_1 rest hpieces =>
    rw [hpieces, walk] at h
    rw [walk]
    cases hnode : t.node? place with
    | none => simp [hnode] at h
    | some node =>
        cases node with
        | file content => simp [hnode] at h
        | directory =>
            simp only [hnode] at h ⊢
            exact walk_filter h
  case h_2 => exact walk_filter h

/-- A path at which there is a file leads somewhere. -/
theorem exists_locate_of_isFileAt (h : t.isFileAt cwd p) : ∃ place, t.locate cwd p = .ok place := by
  unfold isFileAt find at h
  cases hlocate : t.locate cwd p with
  | error e => simp [hlocate, bind, Except.bind] at h
  | ok place => exact ⟨place, rfl⟩

/-- A path leads where its components do, from the root or from the working directory. -/
theorem walk_of_locate (h : t.locate cwd p = .ok place) :
    t.walk (if Path.isAbsolute p then [] else cwd) (Path.components p) = .ok place := by
  unfold locate at h
  by_cases hempty : p.isEmpty
  · simp [hempty] at h
  · rw [if_neg hempty] at h
    exact walk_components p h

/-- Two spellings of a file's path lead to the same file. -/
theorem find_eq_of_key_eq (hp : t.isFileAt cwd p) (hq : t.isFileAt cwd q)
    (hkey : Path.key p = Path.key q) : t.find cwd p = t.find cwd q := by
  obtain ⟨a, ha⟩ := exists_locate_of_isFileAt hp
  obtain ⟨b, hb⟩ := exists_locate_of_isFileAt hq
  obtain ⟨habs, hcomponents⟩ := Path.isAbsolute_eq_and_components_eq hkey
  have hab : a = b := by
    have hwalk := walk_of_locate ha
    rw [habs, hcomponents, walk_of_locate hb] at hwalk
    exact (Except.ok.inj hwalk).symm
  unfold find
  rw [ha, hb, hab]

/-- Paths of one key lead to the same text. -/
theorem readText_eq_of_key_eq (hp : t.isFileAt cwd p) (hq : t.isFileAt cwd q)
    (hkey : Path.key p = Path.key q) : t.readText cwd p = t.readText cwd q := by
  unfold readText read
  rw [find_eq_of_key_eq hp hq hkey]

/-- A pattern stands for files only. -/
theorem isFileAt_of_mem_filesMatching {pattern : String} (h : p ∈ t.filesMatching cwd pattern) :
    t.isFileAt cwd p := by
  unfold filesMatching at h
  dsimp only at h
  split at h
  · split_ifs at h with hslash
    · simp at h
    · exact (List.mem_filter.mp h).2
  · simp at h

end FileTree

end Turnstile
