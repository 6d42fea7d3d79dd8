import QueryPhrase.Settings.Discovery
import QueryPhrase.Proofs.Path

/-!
# Which settings files count

The search goes from the working directory upwards and ends at a file that says that
it is the last one; where none does, the global file counts, too. It comes behind
all others unless the search has met it on the way: then it keeps the place where
it was met, and files above the home directory come behind it.

The search has three outcomes, `Discovery.Outcome`. What is found is read off from
these.

## Main definitions

* `Discovery.Outcome` — how the search ends, and with what.
* `Discovery.Counted` — what counts in a working directory, and in which order.
* `Discovery.GlobalLast` — the global file has the lowest precedence.

## Main results

* `Discovery.find_outcome` — the search has one of the three outcomes.
* `Discovery.find_counted` — what counts, and when the global file comes last.
-/

namespace QueryPhrase

namespace Discovery

variable {tree : FileTree} {home directory : Text}

/-! ## The search -/

theorem isFile_of_isRoot {path : Text} (h : isRoot tree path = true) :
    tree.isFile path = true := by
  unfold isRoot FileTree.text? at h
  unfold FileTree.isFile
  cases hContents : tree.contents? path with
  | none => simp [hContents] at h
  | some contents => rfl

/-- Paths that no file ends the search at: all files among them are found. -/
theorem upToRoot_of_forall {paths : List Text}
    (h : ∀ path ∈ paths, isRoot tree path = false) :
    upToRoot tree paths = (paths.filter tree.isFile, false) := by
  induction paths with
  | nil => rfl
  | cons path rest ih =>
      rw [List.forall_mem_cons] at h
      rw [upToRoot, ih h.2, List.filter_cons]
      cases tree.isFile path <;> simp [h.1]

/-- The first file that ends the search is the last one that is found. -/
theorem upToRoot_append {front : List Text} {path : Text}
    (hFront : ∀ below ∈ front, isRoot tree below = false)
    (hRoot : isRoot tree path = true) (back : List Text) :
    upToRoot tree (front ++ path :: back) =
      (front.filter tree.isFile ++ [path], true) := by
  induction front with
  | nil =>
      rw [List.nil_append, upToRoot, isFile_of_isRoot hRoot, hRoot]
      rfl
  | cons below rest ih =>
      rw [List.forall_mem_cons] at hFront
      rw [List.cons_append, upToRoot, ih hFront.2, List.filter_cons]
      cases tree.isFile below <;> simp [hFront.1]

/-- How the search ends, and with what. -/
inductive Outcome (tree : FileTree) (home directory : Text) : List Text → Prop
  /-- A file on the way says that it is the last one. -/
  | ended (front : List Text) (path : Text) (back : List Text)
      (places_eq : places directory = front ++ path :: back)
      (front_goes_on : ∀ below ∈ front, isRoot tree below = false)
      (path_is_root : isRoot tree path = true) :
      Outcome tree home directory ((front ++ [path]).filter tree.isFile)
  /-- The global file is not there, or was met on the way. -/
  | walked (goes_on : ∀ path ∈ places directory, isRoot tree path = false)
      (met : tree.isFile (globalPath home) = true →
        ∃ path ∈ places directory,
          tree.isFile path = true ∧ isGlobal home path = true) :
      Outcome tree home directory ((places directory).filter tree.isFile)
  /-- The global file comes behind what was found on the way. -/
  | appended (goes_on : ∀ path ∈ places directory, isRoot tree path = false)
      (is_there : tree.isFile (globalPath home) = true)
      (not_met : ∀ path ∈ places directory,
        tree.isFile path = true → isGlobal home path = false) :
      Outcome tree home directory
        ((places directory).filter tree.isFile ++ [globalPath home])

theorem same_comm (a b : Text) : Path.same a b = Path.same b a := by
  simp only [Path.same, Bool.beq_comm]

/-- **The search has one of the three outcomes.** -/
theorem find_outcome (tree : FileTree) (home directory : Text) :
    Outcome tree home directory (find tree home directory) := by
  cases hRoot : (places directory).find? (isRoot tree) with
  | some path =>
      obtain ⟨hPath, front, back, hPlaces, hFront⟩ :=
        List.find?_eq_some_iff_append.mp hRoot
      have hFront : ∀ below ∈ front, isRoot tree below = false :=
        fun below hBelow => by simpa using hFront below hBelow
      have hFind : find tree home directory =
          (front ++ [path]).filter tree.isFile := by
        rw [find, hPlaces, upToRoot_append hFront hPath, List.filter_append,
          List.filter_singleton, isFile_of_isRoot hPath]
        rfl
      rw [hFind]
      exact .ended front path back hPlaces hFront hPath
  | none =>
      have hGoesOn : ∀ path ∈ places directory, isRoot tree path = false := by
        intro path hPath
        simpa using List.find?_eq_none.mp hRoot path hPath
      rw [find, upToRoot_of_forall hGoesOn]
      simp only [Bool.false_or]
      split
      · rename_i hMet
        refine .walked hGoesOn fun hThere => ?_
        rw [hThere, Bool.not_true, Bool.false_or, List.any_eq_true] at hMet
        obtain ⟨path, hPath, hSame⟩ := hMet
        rw [List.mem_filter] at hPath
        rw [same_comm] at hSame
        exact ⟨path, hPath.1, hPath.2, hSame⟩
      · rename_i hMissed
        rw [Bool.not_eq_true, Bool.or_eq_false_iff, Bool.not_eq_false'] at hMissed
        refine .appended hGoesOn hMissed.1 fun path hPath hFile => ?_
        have hOther := List.any_eq_false.mp hMissed.2 path
          (List.mem_filter.mpr ⟨hPath, hFile⟩)
        rw [isGlobal, same_comm]
        simpa using hOther

/-- Two paths on one way: one of them comes first, or they are the same. -/
theorem two_on_way {first above front back : List Text} {last path : Text}
    (h : first ++ last :: above = front ++ path :: back) :
    (∃ between, first = front ++ path :: between ∧
        back = between ++ last :: above) ∨
      (front = first ∧ path = last) ∨
      ∃ between, front = first ++ last :: between ∧
        above = between ++ path :: back := by
  rcases List.append_eq_append_iff.mp h with
    ⟨rest, hFront, hRest⟩ | ⟨rest, hFirst, hRest⟩
  · cases rest with
    | nil =>
        rw [List.nil_append, List.cons.injEq] at hRest
        exact .inr (.inl ⟨by rw [hFront, List.append_nil], hRest.1.symm⟩)
    | cons c between =>
        rw [List.cons_append, List.cons.injEq] at hRest
        exact .inr (.inr ⟨between, by rw [hFront, hRest.1], hRest.2⟩)
  · cases rest with
    | nil =>
        rw [List.nil_append, List.cons.injEq] at hRest
        exact .inr (.inl ⟨by rw [hFirst, List.append_nil], hRest.1⟩)
    | cons c between =>
        rw [List.cons_append, List.cons.injEq] at hRest
        exact .inl ⟨between, by rw [hFirst, hRest.1], hRest.2⟩

/-! ## The way up -/

/-- The components of the settings file of a directory. -/
theorem components_settingsFile {directory : Text}
    (h : Path.isAbsolute directory = true) :
    Path.components (Path.join directory settingsFileName) =
      Path.components directory ++ [.name settingsFileName] :=
  Path.components_join h (by decide) (by decide)

/-- **Settings files may lie in a directory and in those above it.** -/
theorem components_places (h : Path.isAbsolute directory = true) :
    (places directory).map Path.components =
      (Path.components directory).inits.tail.reverse.map
        (· ++ [.name settingsFileName]) := by
  rw [places, List.map_map, ← Path.components_ancestors h, List.map_map]
  refine List.map_congr_left fun above hAbove => ?_
  exact components_settingsFile (Path.isAbsolute_of_mem_ancestors h hAbove)

/-- No two of these paths are the same. -/
theorem places_distinct (h : Path.isAbsolute directory = true) :
    (places directory).Pairwise (Path.same · · = false) := by
  have hNodup : ((places directory).map Path.components).Nodup := by
    rw [components_places h]
    refine List.Nodup.map (List.append_left_injective _) ?_
    exact List.nodup_reverse.mpr (Path.nodup_inits _).tail
  rw [List.Nodup, List.pairwise_map] at hNodup
  exact hNodup.imp fun hOther => by simpa [Path.same] using hOther

/-- A directory that is reached without going up has no settings file that is
reached by going up. -/
theorem up_notMem_places (h : Path.isAbsolute directory = true)
    (hUp : .up ∉ Path.components directory) {path : Text}
    (hPath : path ∈ places directory) : .up ∉ Path.components path := by
  have hComponents : Path.components path ∈
      (places directory).map Path.components := List.mem_map_of_mem hPath
  rw [components_places h, List.mem_map] at hComponents
  obtain ⟨above, hAbove, hEq⟩ := hComponents
  have hPrefix : above <+: Path.components directory := by
    rw [← List.mem_inits]
    exact List.mem_of_mem_tail (List.mem_reverse.mp hAbove)
  rw [← hEq, List.mem_append, not_or]
  exact ⟨fun hMem => hUp (hPrefix.subset hMem), by simp⟩

theorem up_notMem_globalPath (hUp : .up ∉ Path.components home)
    (hFile : tree.isFile (globalPath home) = true) :
    .up ∉ Path.components (globalPath home) := by
  have hHome : Path.isAbsolute home = true :=
    Path.isAbsolute_of_join (by decide) (FileTree.isAbsolute_of_isFile hFile)
  rw [globalPath, components_settingsFile hHome, List.mem_append, not_or]
  exact ⟨hUp, by simp⟩

/-! ## What counts -/

/-- What counts in a working directory, and in which order, but for the place of the
global file. -/
structure Counted (tree : FileTree) (home directory : Text)
    (found : List Text) : Prop where
  /-- The way goes from the working directory upwards, to the root. -/
  way : (places directory).map Path.components =
    (Path.components directory).inits.tail.reverse.map
      (· ++ [.name settingsFileName])
  /-- No path is there twice. -/
  distinct : found.Pairwise (Path.same · · = false)
  /-- No file is, unless a way there goes up. -/
  apart : .up ∉ Path.components directory → .up ∉ Path.components home →
    found.Pairwise (tree.location? · ≠ tree.location? ·)
  /-- The local files come from the working directory upwards. -/
  upwards : (found.filter (!isGlobal home ·)).Sublist (places directory)
  /-- A file on the way counts unless one further down is the last one. -/
  reached : ∀ front path back, places directory = front ++ path :: back →
    (path ∈ found ↔ tree.isFile path = true ∧
      ∀ below ∈ front, isRoot tree below = false)
  /-- Nothing else counts but the global file. -/
  others : ∀ path ∈ found, path ∈ places directory ∨
    path = globalPath home ∧
      ∀ below ∈ places directory, isRoot tree below = false
  /-- The global file counts unless a file is the last one. -/
  completed : tree.isFile (globalPath home) = true →
    (∀ below ∈ places directory, isRoot tree below = false) →
    ∃ path ∈ found, isGlobal home path = true

/-- The global file has the lowest precedence of what was found. -/
def GlobalLast (home : Text) (found : List Text) : Prop :=
  ∀ front path back, found = front ++ path :: back →
    isGlobal home path = true → back = []

theorem Outcome.isFile {found : List Text}
    (h : Outcome tree home directory found) {path : Text} (hPath : path ∈ found) :
    tree.isFile path = true := by
  cases h with
  | ended => exact (List.mem_filter.mp hPath).2
  | walked => exact (List.mem_filter.mp hPath).2
  | appended goes_on is_there not_met =>
      rcases List.mem_append.mp hPath with hWay | hGlobal
      · exact (List.mem_filter.mp hWay).2
      · rw [List.mem_singleton.mp hGlobal]
        exact is_there

theorem isGlobal_globalPath (home : Text) :
    isGlobal home (globalPath home) = true := by
  simp [isGlobal, Path.same]

theorem Outcome.distinct {found : List Text}
    (h : Outcome tree home directory found)
    (hAbsolute : Path.isAbsolute directory = true) :
    found.Pairwise (Path.same · · = false) := by
  have hPlaces := places_distinct hAbsolute
  cases h with
  | ended front path back places_eq =>
      refine hPlaces.sublist (List.filter_sublist.trans ?_)
      rw [places_eq, List.append_cons front path back]
      exact List.sublist_append_left _ _
  | walked => exact hPlaces.sublist List.filter_sublist
  | appended goes_on is_there not_met =>
      refine List.pairwise_append.mpr
        ⟨hPlaces.sublist List.filter_sublist, List.pairwise_singleton _ _, ?_⟩
      intro path hPath global hGlobal
      rw [List.mem_filter] at hPath
      rw [List.mem_singleton.mp hGlobal]
      exact not_met path hPath.1 hPath.2

/-- A path of what was found lies on the way or is that of the global file. -/
theorem Outcome.others {found : List Text}
    (h : Outcome tree home directory found) :
    ∀ path ∈ found, path ∈ places directory ∨ path = globalPath home ∧
      ∀ below ∈ places directory, isRoot tree below = false := by
  intro path hPath
  cases h with
  | ended front last back places_eq =>
      left
      have hWay : path ∈ front ++ [last] := (List.mem_filter.mp hPath).1
      rw [places_eq, List.append_cons]
      exact List.mem_append_left _ hWay
  | walked => exact .inl (List.mem_filter.mp hPath).1
  | appended goes_on =>
      rcases List.mem_append.mp hPath with hWay | hGlobal
      · exact .inl (List.mem_filter.mp hWay).1
      · exact .inr ⟨List.mem_singleton.mp hGlobal, goes_on⟩

theorem Outcome.apart {found : List Text}
    (h : Outcome tree home directory found)
    (hAbsolute : Path.isAbsolute directory = true)
    (hDirectory : .up ∉ Path.components directory)
    (hHome : .up ∉ Path.components home) :
    found.Pairwise (tree.location? · ≠ tree.location? ·) := by
  have hUp : ∀ path ∈ found, .up ∉ Path.components path := by
    intro path hPath
    rcases h.others path hPath with hWay | ⟨rfl, -⟩
    · exact up_notMem_places hAbsolute hDirectory hWay
    · exact up_notMem_globalPath hHome (h.isFile hPath)
  refine (h.distinct hAbsolute).imp_of_mem fun {a b} ha hb hOther hSame => ?_
  obtain ⟨there, hThere⟩ : ∃ there, tree.location? a = some there := by
    have hFile := h.isFile ha
    unfold FileTree.isFile FileTree.contents? at hFile
    cases hPlace : tree.location? a with
    | none => simp [hPlace] at hFile
    | some there => exact ⟨there, rfl⟩
  have hComponents : Path.components a = Path.components b := by
    rw [FileTree.components_of_location? hThere (hUp a ha),
      FileTree.components_of_location? (hSame ▸ hThere) (hUp b hb)]
  simp [Path.same, hComponents] at hOther

theorem Outcome.upwards {found : List Text}
    (h : Outcome tree home directory found) :
    (found.filter (!isGlobal home ·)).Sublist (places directory) := by
  cases h with
  | ended front path back places_eq =>
      refine List.filter_sublist.trans (List.filter_sublist.trans ?_)
      rw [places_eq, List.append_cons front path back]
      exact List.sublist_append_left _ _
  | walked => exact List.filter_sublist.trans List.filter_sublist
  | appended =>
      rw [List.filter_append, List.filter_singleton, isGlobal_globalPath]
      rw [Bool.not_true, cond_false, List.append_nil]
      exact List.filter_sublist.trans List.filter_sublist

theorem Outcome.reached {found : List Text}
    (h : Outcome tree home directory found)
    (hAbsolute : Path.isAbsolute directory = true)
    {front back : List Text} {path : Text}
    (hPlaces : places directory = front ++ path :: back) :
    path ∈ found ↔ tree.isFile path = true ∧
      ∀ below ∈ front, isRoot tree below = false := by
  have hMem : path ∈ places directory := by
    rw [hPlaces]
    exact List.mem_append_right _ (List.mem_cons_self ..)
  cases h with
  | ended first last above places_eq goes_on is_root =>
      have hLast := isFile_of_isRoot is_root
      rw [List.mem_filter, and_comm]
      refine and_congr_right fun hFile => ?_
      rcases two_on_way (places_eq.symm.trans hPlaces) with
        ⟨between, rfl, -⟩ | ⟨rfl, rfl⟩ | ⟨between, rfl, rfl⟩
      · refine iff_of_true (by simp) fun below hBelow => ?_
        exact goes_on below (List.mem_append_left _ hBelow)
      · exact iff_of_true (by simp) goes_on
      · refine iff_of_false (fun hMet => ?_) fun hGoesOn => ?_
        · -- the path would be met twice
          have hDistinct := places_distinct hAbsolute
          rw [places_eq, List.append_cons, List.pairwise_append] at hDistinct
          have hTwice := hDistinct.2.2 path hMet path (by simp)
          simp [Path.same] at hTwice
        · rw [hGoesOn last (by simp)] at is_root
          cases is_root
  | walked goes_on =>
      rw [List.mem_filter, and_iff_right hMem, iff_self_and]
      intro _ below hBelow
      exact goes_on below (hPlaces ▸ List.mem_append_left _ hBelow)
  | appended goes_on is_there =>
      have hBelow : ∀ below ∈ front, isRoot tree below = false :=
        fun below hBelow => goes_on below (hPlaces ▸ List.mem_append_left _ hBelow)
      rw [List.mem_append, List.mem_filter, and_iff_right hMem,
        and_iff_left hBelow, or_iff_left_iff_imp, List.mem_singleton]
      rintro rfl
      exact is_there

theorem Outcome.completed {found : List Text}
    (h : Outcome tree home directory found)
    (hThere : tree.isFile (globalPath home) = true)
    (hGoesOn : ∀ below ∈ places directory, isRoot tree below = false) :
    ∃ path ∈ found, isGlobal home path = true := by
  cases h with
  | ended front path back places_eq goes_on is_root =>
      have hPath := hGoesOn path (by rw [places_eq]; simp)
      rw [hPath] at is_root
      cases is_root
  | walked goes_on met =>
      obtain ⟨path, hPath, hFile, hGlobal⟩ := met hThere
      exact ⟨path, List.mem_filter.mpr ⟨hPath, hFile⟩, hGlobal⟩
  | appended => exact ⟨_, by simp, isGlobal_globalPath home⟩

/-! ## When the global file comes last -/

/-- Of the files on a part of the way, the global one is the last one if there is
none further up. -/
theorem globalLast_filter (way : List Text) :
    GlobalLast home (way.filter tree.isFile) ↔
      ∀ front path back, way = front ++ path :: back →
        isGlobal home path = true → tree.isFile path = true →
        ∀ above ∈ back, tree.isFile above = false := by
  constructor
  · intro h front path back hWay hGlobal hFile
    have hNil := h (front.filter tree.isFile) path (back.filter tree.isFile)
      (by rw [hWay, List.filter_append, List.filter_cons_of_pos hFile]) hGlobal
    intro above hAbove
    simpa using List.filter_eq_nil_iff.mp hNil above hAbove
  · intro h front path back hFound hGlobal
    obtain ⟨before, rest, rfl, -, hRest⟩ := List.filter_eq_append_iff.mp hFound
    obtain ⟨between, behind, rfl, -, hFile, rfl⟩ :=
      List.filter_eq_cons_iff.mp hRest
    rw [List.filter_eq_nil_iff]
    intro above hAbove
    simp [h (before ++ between) path behind (by rw [List.append_assoc]) hGlobal
      hFile above hAbove]

/-- Where the search meets the global file and goes on, it finds nothing more. -/
def MetLast (tree : FileTree) (home directory : Text) : Prop :=
  ∀ front path back, places directory = front ++ path :: back →
    isGlobal home path = true → tree.isFile path = true →
    (∀ below ∈ front ++ [path], isRoot tree below = false) →
    ∀ above ∈ back, tree.isFile above = false

theorem Outcome.globalLast_iff {found : List Text}
    (h : Outcome tree home directory found) :
    GlobalLast home found ↔ MetLast tree home directory := by
  cases h with
  | ended first last above places_eq goes_on is_root =>
      rw [globalLast_filter]
      have hLast := isFile_of_isRoot is_root
      constructor
      · -- a global file behind which the search goes on is not where it ends, and
        -- the file where it ends comes behind the global one
        intro h front path back hPlaces hGlobal hFile hGoesOn
        exfalso
        rcases two_on_way (places_eq.symm.trans hPlaces) with
          ⟨between, rfl, -⟩ | ⟨rfl, rfl⟩ | ⟨between, rfl, -⟩
        · have hNone := h front path (between ++ [last]) (by simp) hGlobal hFile
            last (by simp)
          rw [hLast] at hNone
          cases hNone
        · rw [hGoesOn path (by simp)] at is_root
          cases is_root
        · rw [hGoesOn last (by simp)] at is_root
          cases is_root
      · -- the last of what is found is the file where the search ends
        intro h front path back hWay hGlobal hFile
        rcases List.eq_nil_or_concat' back with rfl | ⟨between, other, rfl⟩
        · exact List.forall_mem_nil _
        · rw [← List.cons_append, ← List.append_assoc] at hWay
          obtain ⟨hFirst, -⟩ := List.append_inj' hWay rfl
          have hNone := h front path (between ++ last :: above)
            (by rw [places_eq, hFirst]; simp) hGlobal hFile
            (fun below hBelow => goes_on below (by
              rw [hFirst, List.append_cons]
              exact List.mem_append_left _ hBelow)) last (by simp)
          rw [hLast] at hNone
          cases hNone
  | walked goes_on =>
      rw [globalLast_filter]
      refine forall₃_congr fun front path back => ?_
      refine forall₃_congr fun hPlaces hGlobal hFile => ?_
      rw [forall_prop_of_true]
      intro below hBelow
      apply goes_on
      rw [hPlaces, List.append_cons]
      exact List.mem_append_left _ hBelow
  | appended goes_on is_there not_met =>
      constructor
      · intro _ front path back hPlaces hGlobal hFile
        rw [not_met path (by rw [hPlaces]; simp) hFile] at hGlobal
        cases hGlobal
      · intro _ front path back hFound hGlobal
        rcases List.eq_nil_or_concat' back with rfl | ⟨between, other, rfl⟩
        · rfl
        · rw [← List.cons_append, ← List.append_assoc] at hFound
          have hWay := (List.append_inj' hFound rfl).1
          have hPath : path ∈ (places directory).filter tree.isFile := by
            rw [hWay]
            simp
          rw [List.mem_filter] at hPath
          rw [not_met path hPath.1 hPath.2] at hGlobal
          cases hGlobal

/-- **What counts in a working directory**, and in which order: the files there and
in the directories above it, upwards, to the first that is the last one, and the
global file. The global file comes last exactly when the search does not meet it
below another file. -/
theorem find_counted (h : Path.isAbsolute directory = true) :
    Counted tree home directory (find tree home directory) ∧
      (GlobalLast home (find tree home directory) ↔
        MetLast tree home directory) := by
  have hOutcome := find_outcome tree home directory
  refine ⟨?_, hOutcome.globalLast_iff⟩
  exact {
    way := components_places h
    distinct := hOutcome.distinct h
    apart := hOutcome.apart h
    upwards := hOutcome.upwards
    reached := fun front path back => hOutcome.reached h
    others := hOutcome.others
    completed := hOutcome.completed }

/-- A file in the home directory `/home/u` and one above it. -/
def aboveHome : FileTree :=
  (FileTree.empty.addFile "/home/u/.sift.toml" []).addFile "/home/.sift.toml" []

theorem find_counted_of_home :
    Path.isAbsolute "/home/u/p" = true ∧
      Counted aboveHome "/home/u" "/home/u/p"
        (find aboveHome "/home/u" "/home/u/p") ∧
      (GlobalLast "/home/u" (find aboveHome "/home/u" "/home/u/p") ↔
        MetLast aboveHome "/home/u" "/home/u/p") :=
  ⟨by decide, find_counted (by decide)⟩

/-- Where the search meets the global file, one above it comes behind it. -/
theorem find_not_globalLast :
    ¬ GlobalLast "/home/u" (find aboveHome "/home/u" "/home/u") := by
  have hFind : find aboveHome "/home/u" "/home/u" =
      (["/home/u/.sift.toml", "/home/.sift.toml"] : List Text) := by
    decide +kernel
  rw [hFind]
  intro h
  have hNil := h [] _ _ rfl (by decide)
  cases hNil

end Discovery

end QueryPhrase
