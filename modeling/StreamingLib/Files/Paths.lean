import Mathlib.Data.List.Basic
import Mathlib.Tactic

/-!
# Paths in a file tree

A tree of files and directories without links, paths from its root, and the resolution of a list
of components one by one. Where a resolution ends depends on the components alone; the tree only
decides whether it gets there.
-/

namespace Files

variable {ν φ : Type}

/-! ### Components -/

/-- A component of a path that is to be resolved. -/
inductive Component (ν : Type)
  | here
  | up
  | name (n : ν)
deriving DecidableEq

namespace Component

/-- Where a component leads to from a path; there is nothing above the root. -/
def apply (path : List ν) : Component ν → List ν
  | here => path
  | up => path.dropLast
  | name n => path ++ [n]

end Component

/-- Where components lead to, one by one. -/
def normalize (path : List ν) (components : List (Component ν)) : List ν :=
  components.foldl Component.apply path

@[simp] lemma normalize_nil (path : List ν) : normalize path [] = path := rfl

@[simp] lemma normalize_cons (path : List ν) (c : Component ν) (components : List (Component ν)) :
    normalize path (c :: components) = normalize (c.apply path) components := rfl

@[simp] lemma normalize_append (path : List ν) (l l' : List (Component ν)) :
    normalize path (l ++ l') = normalize (normalize path l) l' := List.foldl_append

lemma normalize_names (path names : List ν) :
    normalize path (names.map .name) = path ++ names := by
  induction names generalizing path with
  | nil => simp
  | cons n names ih => simp [Component.apply, ih]

/-! ### Relative paths -/

/-- A relative path in short: so many directories up, then down by names. -/
structure Relative (ν : Type) where
  ups : ℕ
  names : List ν
deriving DecidableEq

namespace Relative

/-- The path with one more component. -/
def push (r : Relative ν) : Component ν → Relative ν
  | .here => r
  | .up => if r.names.isEmpty then ⟨r.ups + 1, []⟩ else ⟨r.ups, r.names.dropLast⟩
  | .name n => ⟨r.ups, r.names ++ [n]⟩

/-- Where a path leads to. -/
def from_ (root : List ν) (r : Relative ν) : List ν := root.take (root.length - r.ups) ++ r.names

lemma apply_from (root : List ν) (r : Relative ν) (c : Component ν) :
    c.apply (r.from_ root) = (r.push c).from_ root := by
  cases c with
  | here => rfl
  | name n => simp [Component.apply, push, from_]
  | up =>
    obtain ⟨ups, names⟩ := r
    cases names using List.reverseRecOn with
    | nil =>
      simp only [Component.apply, push, from_, List.append_nil, List.isEmpty_nil, if_true,
        List.dropLast_eq_take, List.length_take, List.take_take]
      congr 1
      omega
    | append_singleton names n => simp [Component.apply, push, from_, ← List.append_assoc]

end Relative

/-- Components in short. -/
def reduce (components : List (Component ν)) : Relative ν :=
  components.foldl Relative.push ⟨0, []⟩

lemma normalize_eq (root : List ν) (components : List (Component ν)) :
    normalize root components = (reduce components).from_ root := by
  have h : ∀ r : Relative ν, normalize (r.from_ root) components =
      (components.foldl Relative.push r).from_ root := by
    induction components with
    | nil => exact fun r => rfl
    | cons c components ih =>
      intro r
      rw [normalize_cons, Relative.apply_from, ih, List.foldl_cons]
  have hstart : (⟨0, []⟩ : Relative ν).from_ root = root := by simp [Relative.from_]
  have hroot := h ⟨0, []⟩
  rw [hstart] at hroot
  exact hroot

/-- Components lead below the root exactly where they come back by the names of all directories
above it that they leave. -/
theorem prefix_normalize_iff (root : List ν) (components : List (Component ν)) :
    root <+: normalize root components ↔
      root.drop (root.length - (reduce components).ups) <+: (reduce components).names := by
  have h : ∀ (k : ℕ) (names : List ν),
      root <+: root.take k ++ names ↔ root.drop k <+: names := by
    intro k names
    nth_rewrite 1 [← List.take_append_drop k root]
    exact List.prefix_append_right_inj _
  rw [normalize_eq]
  exact h _ _

/-! ### Trees -/

inductive Node (φ : Type)
  | directory
  | file (content : φ)
deriving DecidableEq

/-- A file tree: what there is at each path. -/
structure FileTree (ν φ : Type) where
  node : List ν → Option (Node φ)
  root : node [] = some .directory
  parent : ∀ path n, (node (path ++ [n])).isSome = true → node path = some .directory

namespace FileTree

variable (t : FileTree ν φ)

def isDirectory (path : List ν) : Bool :=
  match t.node path with
  | some .directory => true
  | _ => false

lemma isDirectory_iff {path : List ν} :
    t.isDirectory path = true ↔ t.node path = some .directory := by
  unfold isDirectory
  rcases t.node path with - | - | content
  · simp
  · simp
  · simp

/-- The resolution of one component: it has to lead from a directory to something. -/
def step (path : List ν) (c : Component ν) : Option (List ν) :=
  if t.isDirectory path && (t.node (c.apply path)).isSome then some (c.apply path) else none

/-- The resolution of components, one by one. -/
def walk (path : List ν) (components : List (Component ν)) : Option (List ν) :=
  components.foldlM t.step path

lemma walk_append (path : List ν) (l l' : List (Component ν)) :
    t.walk path (l ++ l') = (t.walk path l).bind (t.walk · l') := List.foldlM_append

/-- A resolution that succeeds ends where the components lead to, and passes through directories
only. -/
theorem walk_eq_some_iff {path q : List ν} (h : (t.node path).isSome = true)
    (components : List (Component ν)) :
    t.walk path components = some q ↔
      q = normalize path components ∧ (t.node q).isSome = true ∧
        ∀ before c after, components = before ++ c :: after →
          t.isDirectory (normalize path before) = true := by
  induction components generalizing path with
  | nil =>
    constructor
    · intro hwalk
      cases hwalk
      refine ⟨rfl, h, ?_⟩
      intro before c after heq
      exact absurd heq (by simp)
    · rintro ⟨rfl, -, -⟩
      rfl
  | cons c components ih =>
    have hunfold : t.walk path (c :: components) =
        (t.step path c).bind (t.walk · components) := rfl
    rw [hunfold, step]
    by_cases hdir : t.isDirectory path = true
    · by_cases hnext : (t.node (c.apply path)).isSome = true
      · rw [hdir, hnext, Bool.and_self, if_pos rfl, Option.bind_some, ih hnext]
        refine and_congr_right fun _ => and_congr_right fun _ => ?_
        constructor
        · rintro hall (- | ⟨b, before⟩) c' after heq
          · exact hdir
          · obtain ⟨rfl, rfl⟩ := List.cons.inj heq
            exact hall before c' after rfl
        · intro hall before c' after heq
          exact hall (c :: before) c' after (by rw [heq]; rfl)
      · rw [if_neg (by simp [hnext])]
        refine iff_of_false (by simp) ?_
        rintro ⟨rfl, hq, hall⟩
        -- What the component leads to is no directory, so nothing can follow it.
        cases components with
        | nil => exact hnext hq
        | cons c' components =>
          have hdir' := (isDirectory_iff t).mp (hall [c] c' components rfl)
          exact hnext (by rw [show c.apply path = normalize path [c] from rfl, hdir']; rfl)
    · rw [if_neg (by simp [hdir])]
      refine iff_of_false (by simp) ?_
      rintro ⟨-, -, hall⟩
      exact hdir (hall [] c components rfl)

/-- A path by names is resolved to itself. -/
lemma walk_names {path : List ν} (h : (t.node path).isSome = true) :
    t.walk [] (path.map .name) = some path := by
  rw [walk_eq_some_iff t (by rw [t.root]; rfl), normalize_names, List.nil_append]
  refine ⟨rfl, h, ?_⟩
  intro before c after heq
  obtain ⟨l, l', rfl, rfl, hl'⟩ := List.map_eq_append_iff.mp heq
  rw [normalize_names, List.nil_append]
  -- Every proper initial part of a path is a directory.
  have hinitial : ∀ l' : List ν, l' ≠ [] → (t.node (l ++ l')).isSome = true →
      t.isDirectory l = true := by
    intro l'
    induction l' using List.reverseRecOn with
    | nil => exact fun hne => absurd rfl hne
    | append_singleton l' n ih =>
      intro _ hnode
      rw [← List.append_assoc] at hnode
      have hparent := t.parent _ _ hnode
      by_cases hl' : l' = []
      · rw [isDirectory_iff, ← hparent, hl', List.append_nil]
      · exact ih hl' (by rw [hparent]; rfl)
  refine hinitial l' ?_ h
  rintro rfl
  cases hl'

end FileTree

end Files
