import StreamingLib.Files.Paths
import StreamingLib.Rtsp.Methods

/-!
# The files of the server

`get_jpeg_stream` in a file system without links: `canonical` joins a path to its base unless it is
absolute, resolves the components one by one and throws where they lead nowhere.
-/

namespace Rtsp

open Peg Files

/-! ### The file system -/

/-- A component of a written path. An empty one, between or behind slashes, leads nowhere else. -/
def component (piece : Text) : Component Text :=
  if piece = [] ∨ piece = str "." then .here
  else if piece = str ".." then .up
  else .name piece

def pathComponents (path : Text) : List (Component Text) := (path.splitOn 47).map component

/-- `fileapi::path::is_absolute`. -/
def isAbsolute (path : Text) : Bool := path.head? = some 47

/-- `fileapi::absolute`. -/
def absolute (path base : Text) : Text := if isAbsolute path then path else base ++ str "/" ++ path

/-- The files a server runs on, with the directory it was started in. They have no permissions:
`std::fstream` can open each of them for reading and writing. -/
structure FileSystem where
  tree : FileTree Text Rtp.Octets
  currentPath : Text

/-- A canonical path as it is written. -/
def pathText (path : List Text) : Text := path.flatMap (str "/" ++ ·)

namespace FileSystem

variable (fs : FileSystem)

/-- `fileapi::canonical`, `none` where it throws. -/
def canonical (path base : Text) : Option (List Text) :=
  fs.tree.walk [] (pathComponents (absolute path (absolute base fs.currentPath)))

/-- What is read of the file at a path, a stream without good bit if there is none. -/
def contents (path : List Text) : Rtp.IStream :=
  match fs.tree.node path with
  | some (.file content) => { chars := content }
  | _ => { chars := [], good := false }

/-- `std::fstream` of a path. -/
def openFile (path : Text) : Rtp.IStream :=
  match fs.tree.walk [] (pathComponents path) with
  | some path => fs.contents path
  | none => { chars := [], good := false }

/-- What SETUP finds in the file system. -/
def environment (ressourceRoot : Text) (probability : Parser UInt8 Unit) : Environment where
  ressourceRoot := ressourceRoot
  canonical path base := (fs.canonical path base).map pathText
  openFile := fs.openFile
  probability := probability

/-- The directory that a path names. -/
def directory (path : Text) : Option (List Text) :=
  (fs.tree.walk [] (pathComponents (absolute path fs.currentPath))).filter fs.tree.isDirectory

end FileSystem

/-- The name that is read of a URI. -/
def fileName (uri : Text) : Option Text :=
  let parsed := fileNameRule.run uri []
  if parsed.ok then some parsed.attr else none

/-- The file at the path is opened for the URI. -/
def FileSystem.Opens (fs : FileSystem) (ressourceRoot uri : Text) (path : List Text) : Prop :=
  ∃ name content, fileName uri = some name ∧ fs.canonical name ressourceRoot = some path ∧
    fs.tree.node path = some (.file content)

/-! ### Written paths -/

/-- A name that is a component of its own. -/
structure IsName (n : Text) : Prop where
  component : component n = .name n
  slash : 47 ∉ n

lemma component_eq_name {piece n : Text} (h : component piece = .name n) :
    piece = n ∧ component n = .name n := by
  have h' := h
  unfold component at h'
  split_ifs at h'
  obtain rfl := Component.name.inj h'
  exact ⟨rfl, h⟩

lemma not_mem_of_mem_splitOn {path piece : Text} (h : piece ∈ path.splitOn 47) : 47 ∉ piece := by
  induction path generalizing piece with
  | nil =>
    rw [List.splitOn_nil, List.mem_singleton] at h
    rw [h]
    exact List.not_mem_nil
  | cons c path ih =>
    obtain ⟨first, rest, hsplit⟩ := List.exists_cons_of_ne_nil (List.splitOn_ne_nil 47 path)
    rw [List.splitOn_cons_eq_if_modifyHead, hsplit] at h
    rw [hsplit] at ih
    split_ifs at h with hc
    · rcases List.mem_cons.mp h with rfl | h
      · exact List.not_mem_nil
      · exact ih h
    · rw [List.modifyHead_cons] at h
      rcases List.mem_cons.mp h with rfl | h
      · intro hmem
        rcases List.mem_cons.mp hmem with rfl | hmem
        · exact hc (by decide)
        · exact ih List.mem_cons_self hmem
      · exact ih (List.mem_cons_of_mem _ h)

lemma isName_of_mem {path n : Text} (h : .name n ∈ pathComponents path) : IsName n := by
  obtain ⟨piece, hpiece, hcomponent⟩ := List.mem_map.mp h
  obtain ⟨rfl, hname⟩ := component_eq_name hcomponent
  exact ⟨hname, not_mem_of_mem_splitOn hpiece⟩

/-- The names of a normalized path are names of its components. -/
lemma isName_normalize {components : List (Component Text)}
    (h : ∀ n, .name n ∈ components → IsName n) {path : List Text} (hpath : ∀ n ∈ path, IsName n) :
    ∀ n ∈ normalize path components, IsName n := by
  induction components generalizing path with
  | nil => exact hpath
  | cons c components ih =>
    refine ih (fun n hn => h n (List.mem_cons_of_mem _ hn)) ?_
    cases c with
    | here => exact hpath
    | up => exact fun n hn => hpath n (List.mem_of_mem_dropLast hn)
    | name n =>
      intro n' hn'
      rcases List.mem_append.mp hn' with hn' | hn'
      · exact hpath n' hn'
      · rw [List.mem_singleton.mp hn']
        exact h n List.mem_cons_self

lemma pathComponents_append (path path' : Text) :
    pathComponents (path ++ str "/" ++ path') = pathComponents path ++ pathComponents path' := by
  have h : path ++ str "/" ++ path' = path ++ 47 :: path' := by
    rw [List.append_assoc]
    rfl
  unfold pathComponents
  rw [h, List.splitOn_append_cons_self, List.map_append]

/-- A canonical path leads to itself. -/
lemma normalize_pathText {path : List Text} (h : ∀ n ∈ path, IsName n) :
    pathComponents (pathText path) = .here :: path.map .name := by
  induction path using List.reverseRecOn with
  | nil => rfl
  | append_singleton path n ih =>
    have hn : IsName n := h n (by simp)
    have hsingle : pathComponents n = [.name n] := by
      unfold pathComponents
      rw [List.splitOn_eq_singleton hn.slash, List.map_singleton, hn.component]
    have htext : pathText (path ++ [n]) = pathText path ++ str "/" ++ n := by
      simp [pathText]
    rw [htext, pathComponents_append, ih fun n' hn' => h n' (by simp [hn']), hsingle]
    simp

namespace FileSystem

variable {fs : FileSystem}

lemma node_nil : (fs.tree.node []).isSome = true := by
  rw [fs.tree.root]
  rfl

/-- The stream of a canonical path is the file there. -/
lemma openFile_pathText {text : Text} {path : List Text}
    (h : fs.tree.walk [] (pathComponents text) = some path) :
    fs.openFile (pathText path) = fs.contents path := by
  obtain ⟨hpath, hnode, -⟩ := (fs.tree.walk_eq_some_iff node_nil _).mp h
  have hnames : ∀ n ∈ path, IsName n := by
    rw [hpath]
    exact isName_normalize (fun n hn => isName_of_mem hn) (List.forall_mem_nil _)
  have hwalk : fs.tree.walk [] (pathComponents (pathText path)) = some path := by
    rw [normalize_pathText hnames]
    have hstep : fs.tree.step [] .here = some [] := by
      have hdirectory := fs.tree.isDirectory_iff.mpr fs.tree.root
      rw [FileTree.step, hdirectory, Component.apply, node_nil]
      rfl
    have hcons : fs.tree.walk [] (.here :: path.map .name) =
        (fs.tree.step [] .here).bind (fs.tree.walk · (path.map .name)) := rfl
    rw [hcons, hstep, Option.bind_some]
    exact fs.tree.walk_names hnode
  unfold openFile
  rw [hwalk]

/-- `get_jpeg_stream` has a good stream exactly where it opens a file, and reads that file. -/
lemma getJpegStream_eq_some_iff {ressourceRoot uri : Text} {probability : Parser UInt8 Unit}
    {content : Rtp.Octets} :
    getJpegStream (fs.environment ressourceRoot probability) uri = some { chars := content } ↔
      ∃ path, fs.Opens ressourceRoot uri path ∧ fs.tree.node path = some (.file content) := by
  have hstream : getJpegStream (fs.environment ressourceRoot probability) uri =
      (fileName uri).bind fun name =>
        ((fs.canonical name ressourceRoot).map pathText).map fs.openFile := by
    unfold getJpegStream fileName
    dsimp only
    cases (fileNameRule.run uri []).ok with
    | false => rfl
    | true => rfl
  rw [hstream]
  cases hname : fileName uri with
  | none =>
    refine iff_of_false (by simp) ?_
    rintro ⟨path, ⟨name, -, h, -⟩, -⟩
    rw [hname] at h
    cases h
  | some name =>
    rw [Option.bind_some]
    cases hcanonical : fs.canonical name ressourceRoot with
    | none =>
      refine iff_of_false (by simp) ?_
      rintro ⟨path, ⟨name', -, h, h', -⟩, -⟩
      rw [hname] at h
      cases h
      rw [hcanonical] at h'
      cases h'
    | some path =>
      rw [Option.map_some, Option.map_some, openFile_pathText hcanonical, Option.some_inj]
      constructor
      · intro h
        rcases hnode : fs.tree.node path with - | - | content'
        · simp [contents, hnode] at h
        · simp [contents, hnode] at h
        · simp only [contents, hnode, Rtp.IStream.mk.injEq, and_true] at h
          exact ⟨path, ⟨name, content', hname, hcanonical, hnode⟩, by rw [hnode, h]⟩
      · rintro ⟨path', ⟨name', -, h, h', -⟩, hnode⟩
        rw [hname] at h
        cases h
        rw [hcanonical] at h'
        cases h'
        simp [contents, hnode]

/-! ### Confinement -/

/-- When the path of a URI can not lead out of the root: there is no way by it to a file, or it
comes back by the names of all directories above the root that it leaves. -/
def StaysBelow (fs : FileSystem) (root : List Text) (uri : Text) : Prop :=
  ∀ name content, fileName uri = some name →
    (∀ before c after, pathComponents name = before ++ c :: after →
      fs.tree.isDirectory (normalize root before) = true) →
    fs.tree.node (normalize root (pathComponents name)) = some (.file content) →
    root.drop (root.length - (reduce (pathComponents name)).ups) <+:
      (reduce (pathComponents name)).names

/-- The name of a file begins with a letter or a digit. -/
lemma fileName_head {uri name : Text} (h : fileName uri = some name) :
    ∃ c w, name = c :: w ∧ isAlnum c = true := by
  unfold fileName at h
  dsimp only at h
  split_ifs at h with hok
  obtain rfl := Option.some.inj h
  have hm := Parser.matches_of_ok hok
  unfold fileNameRule at hm
  obtain ⟨r₁, b₁, h₁, hm⟩ := matches_seq_iff.mp hm
  obtain ⟨r₂, b₂, h₂, hm⟩ := matches_seq_iff.mp hm
  obtain ⟨r₃, b₃, h₃, hm⟩ := matches_seq_iff.mp hm
  obtain ⟨r₄, b₄, h₄, hm⟩ := matches_seq_iff.mp hm
  obtain ⟨r₅, b₅, h₅, hm⟩ := matches_seq_iff.mp hm
  -- What comes before the name leaves the attribute empty.
  have hscheme : b₁ = [] := by
    rw [← h₁.run_ok.2.2, orElse_eq, Peg.alt]
    dsimp only
    split_ifs
    · exact lit_attr _ _ _
    · rw [lit_attr, lit_attr]
  have hslashes : b₂ = b₁ := (lit_matches_iff.mp h₂).2
  have hhost : b₃ = b₂ := h₃.run_ok.2.2.symm
  have hslash : b₄ = b₃ := (lit_matches_iff.mp h₄).2
  have hempty : b₄ = [] := by rw [hslash, hhost, hslashes, hscheme]
  subst hempty
  cases r₄ with
  | nil => exact absurd h₅ (sat_fails_nil isAlnum []).not_matches
  | cons c r₄ =>
    cases hc : isAlnum c with
    | false => exact absurd h₅ (sat_fails hc r₄ []).not_matches
    | true =>
      obtain ⟨rfl, rfl⟩ := h₅.unique (sat_matches hc r₄ [])
      obtain ⟨-, hattr⟩ := hm.unique (star_sat_matches isPrint r₅ _)
      exact ⟨c, r₅.takeWhile isPrint, hattr, hc⟩

/-- So it is joined to the root. -/
lemma canonical_eq {ressourceRoot uri name : Text} {root : List Text}
    (hname : fileName uri = some name) (hroot : fs.directory ressourceRoot = some root) :
    fs.canonical name ressourceRoot = fs.tree.walk root (pathComponents name) := by
  obtain ⟨c, w, rfl, hc⟩ := fileName_head hname
  have hrelative : isAbsolute (c :: w) = false := by
    unfold isAbsolute
    rw [List.head?_cons, decide_eq_false_iff_not]
    rintro ⟨⟩
    exact absurd hc (by decide)
  obtain ⟨hwalk, -⟩ := Option.filter_eq_some_iff.mp hroot
  unfold canonical
  rw [absolute, hrelative, if_neg Bool.false_ne_true, pathComponents_append, FileTree.walk_append,
    hwalk, Option.bind_some]

/-- The file that is opened for a URI lies below the root exactly where the path of the URI stays
below it, for every file system and root directory. -/
theorem confined_iff {ressourceRoot : Text} {root : List Text}
    (hroot : fs.directory ressourceRoot = some root) (uri : Text) :
    (∀ path, fs.Opens ressourceRoot uri path → root <+: path ∧ path ≠ root) ↔
      fs.StaysBelow root uri := by
  obtain ⟨-, hdirectory⟩ := Option.filter_eq_some_iff.mp hroot
  have hnode : (fs.tree.node root).isSome = true := by
    rw [fs.tree.isDirectory_iff.mp hdirectory]
    rfl
  constructor
  · intro h name content hname hthrough hfile
    have hpath : (fs.tree.node (normalize root (pathComponents name))).isSome = true := by
      rw [hfile]
      rfl
    have hwalk := (fs.tree.walk_eq_some_iff hnode (pathComponents name)).mpr
      ⟨rfl, hpath, hthrough⟩
    rw [← canonical_eq hname hroot] at hwalk
    obtain ⟨hbelow, -⟩ := h _ ⟨name, content, hname, hwalk, hfile⟩
    exact (prefix_normalize_iff root (pathComponents name)).mp hbelow
  · rintro h path ⟨name, content, hname, hcanonical, hfile⟩
    rw [canonical_eq hname hroot] at hcanonical
    obtain ⟨rfl, -, hthrough⟩ :=
      (fs.tree.walk_eq_some_iff hnode (pathComponents name)).mp hcanonical
    refine ⟨(prefix_normalize_iff root (pathComponents name)).mpr
      (h name content hname hthrough hfile), ?_⟩
    intro heq
    rw [heq, fs.tree.isDirectory_iff.mp hdirectory] at hfile
    cases hfile

/-! ### A way out -/

/-- The paths `/srv/a/b` and `/etc/passwd`. -/
def sampleNode (path : List Text) : Option (Node Rtp.Octets) :=
  if path ∈ [[], [str "srv"], [str "srv", str "a"], [str "etc"]] then some .directory
  else if path ∈ [[str "srv", str "a", str "b"], [str "etc", str "passwd"]] then some (.file [])
  else none

def sampleTree : FileTree Text Rtp.Octets where
  node := sampleNode
  root := by decide
  parent path n h := by
    have hpaths : path ++ [n] ∈ [[], [str "srv"], [str "srv", str "a"], [str "etc"],
        [str "srv", str "a", str "b"], [str "etc", str "passwd"]] := by
      unfold sampleNode at h
      split_ifs at h with hdirectory hfile
      · simp only [List.mem_cons] at hdirectory ⊢
        tauto
      · simp only [List.mem_cons] at hfile ⊢
        tauto
      · cases h
    have hparents : ∀ l ∈ [[], [str "srv"], [str "srv", str "a"], [str "etc"],
        [str "srv", str "a", str "b"], [str "etc", str "passwd"]],
        sampleNode l.dropLast = some .directory := by
      decide
    have hparent := hparents _ hpaths
    rwa [List.dropLast_concat] at hparent

def sampleFiles : FileSystem where
  tree := sampleTree
  currentPath := str "/"

lemma sampleFiles_directory : sampleFiles.directory (str "/srv") = some [str "srv"] := by
  decide

theorem confined_sample :
    sampleFiles.Opens (str "/srv") (str "rtsp://h/a/b") [str "srv", str "a", str "b"] ∧
      [str "srv"] <+: [str "srv", str "a", str "b"] := by
  have hread : fileName (str "rtsp://h/a/b") = some (str "a/b") := by decide
  have hopens : sampleFiles.Opens (str "/srv") (str "rtsp://h/a/b")
      [str "srv", str "a", str "b"] :=
    ⟨str "a/b", [], hread, by decide, by decide⟩
  have hstays : sampleFiles.StaysBelow [str "srv"] (str "rtsp://h/a/b") := by
    intro name content hname _ _
    obtain rfl := Option.some.inj (hread.symm.trans hname)
    have hups : (reduce (pathComponents (str "a/b"))).ups = 0 := by decide
    rw [hups]
    exact List.nil_prefix
  exact ⟨hopens, ((confined_iff sampleFiles_directory _).mpr hstays _ hopens).1⟩

/-- A subdirectory is enough to leave the root through its parent references. -/
theorem not_confined :
    ¬∀ (fs : FileSystem) (ressourceRoot uri : Text) (root : List Text),
      fs.directory ressourceRoot = some root →
      ∀ path, fs.Opens ressourceRoot uri path → root <+: path ∧ path ≠ root := by
  intro h
  have hopens : sampleFiles.Opens (str "/srv") (str "rtsp://h/a/../../etc/passwd")
      [str "etc", str "passwd"] :=
    ⟨str "a/../../etc/passwd", [], by decide, by decide, by decide⟩
  obtain ⟨hbelow, -⟩ := h sampleFiles (str "/srv") _ _ sampleFiles_directory _ hopens
  have hout : ¬[str "srv"] <+: [str "etc", str "passwd"] := by decide
  exact hout hbelow

end FileSystem

end Rtsp
