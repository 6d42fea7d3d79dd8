import Mathlib.Data.List.Infix
import Mathlib.Data.List.Nodup
import QueryPhrase.FileTree
import QueryPhrase.Proofs.Text.Pieces

/-!
# Paths by their components

An absolute path is its components: the root and the pieces between slashes that
count. The directories above it are the starts of this list, and a file inside a
directory has one component more. A path that never goes up leads to the place that
its names spell, so two such paths to one place are the same path.

## Main results

* `Path.components_ancestors` — a path and the directories above it are the starts
  of its components, from the longest to the shortest.
* `Path.components_join` — a name inside a directory is one component more.
* `FileTree.components_of_location?` — the components of a path that never goes up
  are those of the place it leads to.
-/

namespace QueryPhrase

namespace Path

theorem componentOf?_ne_root (first : Bool) (piece : Text) :
    componentOf? first piece ≠ some .root := by
  unfold componentOf?
  split
  · simp
  · split
    · split <;> simp
    · split <;> simp

theorem map_component_placesFrom (offset : Nat) (pieces : List Text) :
    (placesFrom false offset pieces).map Place.component =
      pieces.filterMap (componentOf? false) := by
  induction pieces generalizing offset with
  | nil => rfl
  | cons piece rest ih =>
      rw [placesFrom, List.map_append, ih, List.filterMap_cons]
      cases componentOf? false piece <;> rfl

/-- The components of an absolute path. -/
theorem components_slash (rest : Text) :
    components ('/' :: rest) =
      .root :: (Text.splitAt '/' rest).filterMap (componentOf? false) := by
  rw [components, places, List.map_cons, map_component_placesFrom]

theorem isAbsolute_iff {path : Text} :
    isAbsolute path = true ↔ ∃ rest, path = '/' :: rest := by
  cases path with
  | nil => simp [isAbsolute]
  | cons c rest => simp [isAbsolute]

theorem root_notMem_placesFrom (first : Bool) (offset : Nat)
    (pieces : List Text) :
    ∀ place ∈ placesFrom first offset pieces, place.component ≠ .root := by
  induction pieces generalizing first offset with
  | nil => simp [placesFrom]
  | cons piece rest ih =>
      intro place hPlace
      rw [placesFrom, List.mem_append] at hPlace
      rcases hPlace with hFirst | hRest
      · simp only [Option.mem_toList, Option.map_eq_some_iff] at hFirst
        obtain ⟨component, hComponent, rfl⟩ := hFirst
        rintro rfl
        exact componentOf?_ne_root first piece hComponent
      · exact ih false _ place hRest

/-- A path is absolute if its components say so. -/
theorem isAbsolute_iff_components {path : Text} :
    isAbsolute path = true ↔ (components path).head? = some .root := by
  rw [isAbsolute_iff]
  constructor
  · rintro ⟨rest, rfl⟩
    rw [components_slash, List.head?_cons]
  · intro hRoot
    rw [components, List.head?_map, Option.map_eq_some_iff] at hRoot
    obtain ⟨place, hPlace, hComponent⟩ := hRoot
    unfold places at hPlace
    split at hPlace
    · exact ⟨_, rfl⟩
    · exact absurd hComponent
        (root_notMem_placesFrom _ _ _ place (List.mem_of_head? hPlace))

/-! ## Directories above -/

/-- Where a path ends behind one of its pieces, it has the components up to
there. -/
private theorem components_closed {before : List Text} {piece : Text}
    (hBefore : ∀ part ∈ before, '/' ∉ part) (hPiece : '/' ∉ piece) :
    components ('/' :: (Text.closed '/' before ++ piece)) =
      .root :: (before ++ [piece]).filterMap (componentOf? false) := by
  rw [components_slash, Text.splitAt_closed_append hBefore,
    Text.splitAt_of_not_mem hPiece]

/-- A text of pieces goes on behind the first of those that are left. -/
private theorem exists_behind_piece (before : List Text) (piece : Text)
    (rest : List Text) : ∃ behind : Text,
      Text.closed '/' before ++ Text.joined ['/'] (piece :: rest) =
        (Text.closed '/' before ++ piece) ++ behind := by
  cases rest with
  | nil => exact ⟨[], by rw [Text.joined_singleton, List.append_nil]⟩
  | cons next others =>
      exact ⟨_, by rw [Text.joined_cons_cons, List.append_assoc]⟩

theorem inits_eq_cons (parts : List Component) :
    parts.inits = [] :: parts.inits.tail := by
  cases parts <;> simp

theorem getLast?_tail_inits (part : Component) (parts : List Component) :
    (part :: parts).inits.tail.getLast? = some (part :: parts) := by
  induction parts generalizing part with
  | nil => rfl
  | cons next others ih =>
      rw [List.inits_cons, List.tail_cons, inits_eq_cons, List.map_cons,
        List.getLast?_cons, List.getLast?_map, ih]
      rfl

theorem nodup_inits (parts : List Component) : parts.inits.Nodup := by
  induction parts with
  | nil => exact List.nodup_singleton _
  | cons part rest ih =>
      rw [List.inits_cons, List.nodup_cons]
      exact ⟨by simp, ih.map (List.cons_injective)⟩

/-- The starts of a path up to each of its components. The induction is on the
pieces that are left; those that the places are counted behind stand in `before`. -/
private theorem components_take_placesFrom {before pieces : List Text}
    (hBefore : ∀ piece ∈ before, '/' ∉ piece)
    (hPieces : ∀ piece ∈ pieces, '/' ∉ piece) :
    (placesFrom false ((Text.closed '/' before).length + 1) pieces).map
        (fun place => components
          (('/' :: (Text.closed '/' before ++ Text.joined ['/'] pieces)).take
            place.stop)) =
      (pieces.filterMap (componentOf? false)).inits.tail.map
        (.root :: before.filterMap (componentOf? false) ++ ·) := by
  induction pieces generalizing before with
  | nil => rfl
  | cons piece rest ih =>
      rw [List.forall_mem_cons] at hPieces
      obtain ⟨hPiece, hRest⟩ := hPieces
      have hNext : ∀ part ∈ before ++ [piece], '/' ∉ part := by
        rw [List.forall_mem_append, List.forall_mem_singleton]
        exact ⟨hBefore, hPiece⟩
      have hOffset : (Text.closed '/' before).length + 1 + piece.length + 1 =
          (Text.closed '/' (before ++ [piece])).length + 1 := by
        rw [Text.closed_append_singleton, List.length_append,
          List.length_append, List.length_singleton]
        omega
      -- the place of this piece is cut right behind it
      have hOwn : components (('/' :: (Text.closed '/' before ++
            Text.joined ['/'] (piece :: rest))).take
              ((Text.closed '/' before).length + 1 + piece.length)) =
          .root :: (before ++ [piece]).filterMap (componentOf? false) := by
        obtain ⟨behind, hBehind⟩ := exists_behind_piece before piece rest
        rw [hBehind, show (Text.closed '/' before).length + 1 + piece.length =
          (Text.closed '/' before ++ piece).length + 1 by
            rw [List.length_append]; omega, List.take_succ_cons,
          List.take_left, components_closed hBefore hPiece]
      -- and the places behind it are those of the rest
      have hLater : (placesFrom false
            ((Text.closed '/' (before ++ [piece])).length + 1) rest).map
          (fun place => components (('/' :: (Text.closed '/' before ++
            Text.joined ['/'] (piece :: rest))).take place.stop)) =
          (rest.filterMap (componentOf? false)).inits.tail.map
            (.root :: (before ++ [piece]).filterMap (componentOf? false) ++ ·) := by
        cases rest with
        | nil => rfl
        | cons next others =>
            rw [← ih hNext hRest, Text.joined_cons_cons,
              Text.closed_append_singleton]
            simp only [List.append_assoc]
      rw [placesFrom, List.map_append, hOffset, hLater]
      cases hComponent : componentOf? false piece with
      | none => simp [hComponent]
      | some component =>
          rw [List.filterMap_cons_some hComponent, List.inits_cons,
            List.tail_cons, inits_eq_cons (rest.filterMap _)]
          simp [hOwn, hComponent, Function.comp_def]

/-- **A path and the directories above it** are the starts of its components, the
longest first. -/
theorem components_ancestors {path : Text} (h : isAbsolute path = true) :
    (ancestors path).map components = (components path).inits.tail.reverse := by
  obtain ⟨rest, rfl⟩ := isAbsolute_iff.mp h
  have hStarts := components_take_placesFrom (List.forall_mem_nil _)
    (fun piece (hPiece : piece ∈ Text.splitAt '/' rest) =>
      Text.not_mem_of_mem_splitAt hPiece)
  rw [Text.joined_splitAt] at hStarts
  have hPlaces : (places ('/' :: rest)).map
      (fun place => components (('/' :: rest).take place.stop)) =
        (components ('/' :: rest)).inits.tail := by
    rw [places, components_slash, List.inits_cons, List.tail_cons,
      inits_eq_cons ((Text.splitAt '/' rest).filterMap _), List.map_cons,
      List.map_cons]
    exact congrArg₂ _ rfl hStarts
  have hLast : (components ('/' :: rest)).inits.tail =
      (components ('/' :: rest)).inits.tail.dropLast ++
        [components ('/' :: rest)] :=
    (List.dropLast_append_getLast? _ (by
      rw [components_slash]
      exact getLast?_tail_inits _ _)).symm
  rw [ancestors, if_pos (by simp [h]), List.append_nil, List.map_cons,
    List.map_map, List.map_reverse, List.map_dropLast, Function.comp_def,
    hPlaces]
  conv_rhs => rw [hLast, List.reverse_append]
  rfl

/-- A directory above an absolute one is absolute. -/
theorem isAbsolute_of_mem_ancestors {path above : Text}
    (h : isAbsolute path = true) (hAbove : above ∈ ancestors path) :
    isAbsolute above = true := by
  have hComponents : components above ∈ (components path).inits.tail.reverse := by
    rw [← components_ancestors h]
    exact List.mem_map_of_mem hAbove
  obtain ⟨rest, rfl⟩ := isAbsolute_iff.mp h
  rw [List.mem_reverse, components_slash, List.inits_cons, List.tail_cons,
    List.mem_map] at hComponents
  obtain ⟨parts, -, hParts⟩ := hComponents
  rw [isAbsolute_iff_components, ← hParts, List.head?_cons]

/-! ## Files in directories -/

/-- **A name inside a directory** is one component more. -/
theorem components_join {directory name : Text}
    (h : isAbsolute directory = true) (hSlash : '/' ∉ name)
    (hName : componentOf? false name = some (.name name)) :
    components (join directory name) =
      components directory ++ [.name name] := by
  obtain ⟨rest, rfl⟩ := isAbsolute_iff.mp h
  have hRelative : isAbsolute name = false := by
    cases name with
    | nil => rfl
    | cons c others =>
        rw [List.mem_cons, not_or] at hSlash
        simp [isAbsolute, Ne.symm hSlash.1]
  have hOwn : (Text.splitAt '/' name).filterMap (componentOf? false) =
      [.name name] := by
    rw [Text.splitAt_of_not_mem hSlash]
    simp [hName]
  rw [join, hRelative, if_neg Bool.false_ne_true]
  split
  · rename_i hEnd
    obtain ⟨front, hFront⟩ : ∃ front, '/' :: rest = front ++ ['/'] := by
      have hLast : ('/' :: rest).getLast? = some '/' := by simpa using hEnd
      exact ⟨_, (List.dropLast_append_getLast? '/' hLast).symm⟩
    cases front with
    | nil =>
        obtain rfl : rest = [] := by simpa using hFront
        rw [List.singleton_append, components_slash, hOwn]
        rfl
    | cons c front =>
        obtain ⟨rfl, rfl⟩ : '/' = c ∧ rest = front ++ ['/'] := by
          simpa using hFront
        rw [List.cons_append, List.append_assoc, List.singleton_append,
          components_slash, components_slash, Text.splitAt_append,
          Text.splitAt_append, List.filterMap_append, List.filterMap_append,
          hOwn]
        simp [Text.splitAt, componentOf?]
  · rw [List.cons_append, components_slash, components_slash,
      Text.splitAt_append, List.filterMap_append, hOwn, List.cons_append]

/-- What lies inside a directory has an absolute path only if the directory has. -/
theorem isAbsolute_of_join {directory name : Text}
    (hName : isAbsolute name = false)
    (h : isAbsolute (join directory name) = true) :
    isAbsolute directory = true := by
  rw [join, hName, if_neg Bool.false_ne_true] at h
  cases directory with
  | nil =>
      rw [if_pos (by simp), List.nil_append, hName] at h
      exact h
  | cons c rest =>
      split at h
      · simpa [isAbsolute] using h
      · simpa [isAbsolute] using h

end Path

namespace FileTree

/-- Pieces that never lead up lead to the names among them. -/
theorem walk?_eq_some {tree : FileTree} {pieces : List Text}
    {here there : Location} (h : tree.walk? here pieces = some there)
    (hUp : Path.Component.up ∉ pieces.filterMap (Path.componentOf? false)) :
    there.map Path.Component.name = here.map Path.Component.name ++
      pieces.filterMap (Path.componentOf? false) := by
  induction pieces generalizing here with
  | nil =>
      rw [walk?, Option.some_inj] at h
      rw [h, List.filterMap_nil, List.append_nil]
  | cons piece rest ih =>
      rw [walk?] at h
      split at h
      · by_cases hStay : piece = [] ∨ piece = ['.']
        · have hNone : Path.componentOf? false piece = none := by
            rcases hStay with rfl | rfl <;> rfl
          rw [List.filterMap_cons_none hNone] at hUp ⊢
          rw [Location.follow, if_pos (by simpa using hStay)] at h
          exact ih h hUp
        · rw [not_or] at hStay
          by_cases hTwo : piece = ['.', '.']
          · rw [hTwo] at hUp
            simp [Path.componentOf?] at hUp
          · have hSome : Path.componentOf? false piece = some (.name piece) := by
              rw [Path.componentOf?, if_neg hStay.1, if_neg hStay.2,
                if_neg hTwo]
            rw [List.filterMap_cons_some hSome, List.mem_cons, not_or] at hUp
            rw [Location.follow, if_neg (by simpa using hStay),
              if_neg hTwo] at h
            rw [List.filterMap_cons_some hSome, ih h hUp.2, List.map_append,
              List.append_assoc]
            rfl
      · cases h

/-- **A path that never goes up** leads to the place that its names spell. -/
theorem components_of_location? {tree : FileTree} {path : Text}
    {there : Location} (h : tree.location? path = some there)
    (hUp : Path.Component.up ∉ Path.components path) :
    Path.components path = .root :: there.map Path.Component.name := by
  unfold location? at h
  split at h
  · rw [Path.components_slash, List.mem_cons, not_or] at hUp
    rw [Path.components_slash, walk?_eq_some h hUp.2]
    rfl
  · cases h

/-- Only an absolute path leads to a file. -/
theorem isAbsolute_of_isFile {tree : FileTree} {path : Text}
    (h : tree.isFile path = true) : Path.isAbsolute path = true := by
  cases path with
  | nil => simp [isFile, contents?, location?] at h
  | cons c rest =>
      by_cases hSlash : c = '/'
      · rw [hSlash]
        rfl
      · simp [isFile, contents?, location?, hSlash] at h

end FileTree

end QueryPhrase
