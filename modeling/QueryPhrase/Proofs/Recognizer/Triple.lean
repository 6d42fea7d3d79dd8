import QueryPhrase.Proofs.Recognizer.Run
import QueryPhrase.Proofs.Text.Words

/-!
# The parts of a triple

A run is cut at its blanks into a column, a second word and a value, with the
blanks between them and at the end. Any run has these parts, some of them
missing while the triple is still being typed.

The parts are found twice. The stage machine of the triples' unit comes to the
value one character at a time, and the groups are taken once the triple is
whole. `stage_of_parts` and `groups_of_parts` say that both find the same parts.

## Main definitions

* `MatcherTriple.Parts` — the parts of a run.

## Main results

* `MatcherTriple.exists_parts` — every run has parts.
* `MatcherTriple.stage_of_parts` — how far a run has come.
* `MatcherTriple.stage_eq_value_iff` — a run has come to the value when it has
  one and its second word is an operator.
* `MatcherTriple.groups_of_parts` — the groups of a run are its parts.
-/

namespace QueryPhrase.MatcherTriple

/-- The parts of a run: a column, a second word and a value, blanks between
them, and blanks at the end. A part is missing only where all after it are. -/
structure Parts (run column gap word space value tail : Text) : Prop where
  run_eq : run = column ++ (gap ++ (word ++ (space ++ (value ++ tail))))
  column_solid : ∀ c ∈ column, isBlank c = false
  gap_blank : ∀ c ∈ gap, isBlank c = true
  word_solid : ∀ c ∈ word, isBlank c = false
  space_blank : ∀ c ∈ space, isBlank c = true
  value_starts : value.startsBlank = false
  value_ends : Text.EndsSolid value
  tail_blank : ∀ c ∈ tail, isBlank c = true
  gap_missing : gap = [] → word = []
  word_missing : word = [] → space = []
  space_missing : space = [] → value = []
  value_missing : value = [] → tail = []

/-! ## Every run has parts -/

/-- A word is missing between blanks and a rest only if nothing follows. -/
private theorem eq_nil_of_starts {text front rest : Text}
    (hText : text = front ++ rest) (hBlank : Text.EndsWord text)
    (hFront : front = []) (hRest : rest.startsBlank = false) : rest = [] := by
  subst hText hFront
  rcases hBlank with hNil | hStarts
  · exact hNil
  · rw [List.nil_append, hRest] at hStarts
    cases hStarts

theorem exists_parts (run : Text) : ∃ column gap word space value tail,
    Parts run column gap word space value tail := by
  obtain ⟨column, fromGap, hRun, hColumn, hFromGap⟩ := Text.cut_word run
  obtain ⟨gap, fromWord, hGapSplit, hGap, hFromWord⟩ := Text.cut_blanks fromGap
  obtain ⟨word, fromSpace, hWordSplit, hWord, hFromSpace⟩ :=
    Text.cut_word fromWord
  obtain ⟨space, fromValue, hSpaceSplit, hSpace, hFromValue⟩ :=
    Text.cut_blanks fromSpace
  obtain ⟨value, tail, hValueSplit, hValue, hTail⟩ := Text.cut_tail fromValue
  have hNoWord : gap = [] → fromWord = [] := fun hNone =>
    eq_nil_of_starts hGapSplit hFromGap hNone hFromWord
  have hNoSpace : word = [] → fromSpace = [] := by
    intro hNone
    rcases hFromSpace with hNil | hStarts
    · exact hNil
    · rw [hWordSplit, hNone, List.nil_append, hStarts] at hFromWord
      cases hFromWord
  have hNoValue : space = [] → fromValue = [] := fun hNone =>
    eq_nil_of_starts hSpaceSplit hFromSpace hNone hFromValue
  have hNoTail : value = [] → tail = [] := by
    intro hNone
    by_contra hSome
    rw [hValueSplit, hNone, List.nil_append,
      Text.startsBlank_of_blanks hSome hTail] at hFromValue
    cases hFromValue
  have hStarts : value.startsBlank = false := by
    by_cases hNone : value = []
    · rw [hNone]
      rfl
    · rw [hValueSplit, Text.startsBlank_append_of_ne_nil hNone] at hFromValue
      exact hFromValue
  refine ⟨column, gap, word, space, value, tail, ?_, hColumn, hGap, hWord,
    hSpace, hStarts, hValue, hTail, ?_, ?_, ?_, hNoTail⟩
  · rw [hRun, hGapSplit, hWordSplit, hSpaceSplit, hValueSplit]
  · intro hNone
    have hNil := hNoWord hNone
    rw [hWordSplit, List.append_eq_nil_iff] at hNil
    exact hNil.1
  · intro hNone
    have hNil := hNoSpace hNone
    rw [hSpaceSplit, List.append_eq_nil_iff] at hNil
    exact hNil.1
  · intro hNone
    have hNil := hNoValue hNone
    rw [hValueSplit, List.append_eq_nil_iff] at hNil
    exact hNil.1

/-! ## Progress through the parts -/

theorem progress_append (a b : Text) :
    progress (a ++ b) =
      b.foldl (fun reached c => advance reached.1 reached.2 c)
        (progress a) := by
  rw [progress, List.foldl_append]
  rfl

/-- A value that has begun goes on to the end. -/
theorem progress_append_of_value {run : Text}
    (hStage : (progress run).1 = .value)
    (more : Text) : (progress (run ++ more)).1 = .value := by
  induction more using List.reverseRecOn with
  | nil => rw [List.append_nil, hStage]
  | append_singleton rest c ih =>
      rw [← List.append_assoc, progress_append_singleton, ih]
      rfl

/-- Up to the first blank everything is the column. -/
theorem progress_solid {word : Text} (hSolid : ∀ c ∈ word, isBlank c = false) :
    progress word = (.column, []) := by
  induction word using List.reverseRecOn with
  | nil => rfl
  | append_singleton rest c ih =>
      have hRest : ∀ d ∈ rest, isBlank d = false :=
        fun d hMem => hSolid d (by simp [hMem])
      have hLast : isBlank c = false := hSolid c (by simp)
      rw [progress_append_singleton, ih hRest]
      simp [advance, hLast]

section Stages

variable {opening piece : Text}

/-- The blanks behind the column. -/
private theorem progress_gap (hOpening : progress opening = (.column, []))
    (hPiece : piece ≠ []) (hBlank : ∀ c ∈ piece, isBlank c = true) :
    progress (opening ++ piece) = (.afterColumn, []) := by
  induction piece using List.reverseRecOn with
  | nil => exact absurd rfl hPiece
  | append_singleton rest c ih =>
      have hLast : isBlank c = true := hBlank c (by simp)
      rw [← List.append_assoc, progress_append_singleton]
      by_cases hRest : rest = []
      · rw [hRest, List.append_nil, hOpening]
        simp [advance, hLast]
      · rw [ih hRest fun d hMem => hBlank d (by simp [hMem])]
        simp [advance, hLast]

/-- The second word is read up to the next blank. -/
private theorem progress_word (hOpening : progress opening = (.afterColumn, []))
    (hPiece : piece ≠ []) (hSolid : ∀ c ∈ piece, isBlank c = false) :
    progress (opening ++ piece) = (.operator, piece) := by
  induction piece using List.reverseRecOn with
  | nil => exact absurd rfl hPiece
  | append_singleton rest c ih =>
      have hLast : isBlank c = false := hSolid c (by simp)
      rw [← List.append_assoc, progress_append_singleton]
      by_cases hRest : rest = []
      · rw [hRest, List.append_nil, hOpening]
        simp [advance, hLast]
      · rw [ih hRest fun d hMem => hSolid d (by simp [hMem])]
        simp [advance, hLast]

/-- Behind the second word it is known whether it is an operator. -/
private theorem progress_space {word : Text}
    (hOpening : progress opening = (.operator, word))
    (hPiece : piece ≠ []) (hBlank : ∀ c ∈ piece, isBlank c = true) :
    progress (opening ++ piece) =
      (if Keyword.isMatcherOperator word then .afterOperator else .noOperator,
        []) := by
  induction piece using List.reverseRecOn with
  | nil => exact absurd rfl hPiece
  | append_singleton rest c ih =>
      have hLast : isBlank c = true := hBlank c (by simp)
      rw [← List.append_assoc, progress_append_singleton]
      by_cases hRest : rest = []
      · rw [hRest, List.append_nil, hOpening]
        simp [advance, hLast]
      · rw [ih hRest fun d hMem => hBlank d (by simp [hMem])]
        split
        · simp [advance, hLast]
        · rfl

/-- With the first character of its value, a triple has one. -/
theorem progress_value {c : Char} {rest : Text}
    (hOpening : progress opening = (.afterOperator, []))
    (hSolid : isBlank c = false) :
    (progress (opening ++ c :: rest)).1 = .value := by
  have hFirst : (progress (opening ++ [c])).1 = .value := by
    rw [progress_append_singleton, hOpening]
    simp [advance, hSolid]
  have hRest := progress_append_of_value hFirst rest
  rwa [List.append_assoc] at hRest

/-- A second word that is no operator is never forgotten. -/
private theorem progress_noOperator
    (hOpening : progress opening = (.noOperator, [])) (more : Text) :
    progress (opening ++ more) = (.noOperator, []) := by
  induction more using List.reverseRecOn with
  | nil => rw [List.append_nil, hOpening]
  | append_singleton rest c ih =>
      rw [← List.append_assoc, progress_append_singleton, ih]
      rfl

end Stages

section Parts

variable {run column gap word space value tail : Text}

/-! ## Where the parts meet -/

namespace Parts

theorem behind_column (h : Parts run column gap word space value tail) :
    Text.EndsWord (gap ++ (word ++ (space ++ (value ++ tail)))) := by
  by_cases hGap : gap = []
  · left
    have hWord := h.gap_missing hGap
    have hSpace := h.word_missing hWord
    have hValue := h.space_missing hSpace
    have hTail := h.value_missing hValue
    simp [hGap, hWord, hSpace, hValue, hTail]
  · right
    rw [Text.startsBlank_append_of_ne_nil hGap]
    exact Text.startsBlank_of_blanks hGap h.gap_blank

theorem behind_word (h : Parts run column gap word space value tail) :
    Text.EndsWord (space ++ (value ++ tail)) := by
  by_cases hSpace : space = []
  · left
    have hValue := h.space_missing hSpace
    have hTail := h.value_missing hValue
    simp [hSpace, hValue, hTail]
  · right
    rw [Text.startsBlank_append_of_ne_nil hSpace]
    exact Text.startsBlank_of_blanks hSpace h.space_blank

theorem behind_space (h : Parts run column gap word space value tail) :
    (value ++ tail).startsBlank = false := by
  by_cases hValue : value = []
  · have hTail := h.value_missing hValue
    rw [hValue, hTail]
    rfl
  · rw [Text.startsBlank_append_of_ne_nil hValue]
    exact h.value_starts

theorem behind_gap (h : Parts run column gap word space value tail) :
    (word ++ (space ++ (value ++ tail))).startsBlank = false := by
  by_cases hWord : word = []
  · have hSpace := h.word_missing hWord
    rw [hWord, hSpace]
    exact h.behind_space
  · rw [Text.startsBlank_append_of_ne_nil hWord]
    exact Text.startsBlank_of_word h.word_solid

end Parts

/-- **How far a run has come** is told by which of its parts it has, and behind
the second word by whether that is an operator. -/
theorem stage_of_parts (h : Parts run column gap word space value tail) :
    (progress run).1 =
      if gap = [] then .column
      else if word = [] then .afterColumn
      else if space = [] then .operator
      else if Keyword.isMatcherOperator word = false then .noOperator
      else if value = [] then .afterOperator
      else .value := by
  have hColumn := progress_solid h.column_solid
  rw [h.run_eq]
  by_cases hGap : gap = []
  · have hWord := h.gap_missing hGap
    have hSpace := h.word_missing hWord
    have hValue := h.space_missing hSpace
    have hTail := h.value_missing hValue
    simp [hGap, hWord, hSpace, hValue, hTail, hColumn]
  have hBehindGap := progress_gap hColumn hGap h.gap_blank
  rw [if_neg hGap]
  by_cases hWord : word = []
  · have hSpace := h.word_missing hWord
    have hValue := h.space_missing hSpace
    have hTail := h.value_missing hValue
    simp [hWord, hSpace, hValue, hTail, hBehindGap]
  have hBehindWord := progress_word hBehindGap hWord h.word_solid
  rw [if_neg hWord]
  by_cases hSpace : space = []
  · have hValue := h.space_missing hSpace
    have hTail := h.value_missing hValue
    rw [List.append_assoc] at hBehindWord
    simp [hSpace, hValue, hTail, hBehindWord]
  have hBehindSpace := progress_space hBehindWord hSpace h.space_blank
  rw [if_neg hSpace]
  have hAssoc : column ++ (gap ++ (word ++ (space ++ (value ++ tail)))) =
      column ++ gap ++ word ++ space ++ (value ++ tail) := by simp
  rw [hAssoc]
  by_cases hOperator : Keyword.isMatcherOperator word = false
  · rw [hOperator, if_neg Bool.false_ne_true] at hBehindSpace
    rw [progress_noOperator hBehindSpace, if_pos hOperator]
  rw [if_neg hOperator]
  rw [Bool.not_eq_false] at hOperator
  rw [if_pos hOperator] at hBehindSpace
  cases value with
  | nil =>
      have hTail := h.value_missing rfl
      rw [hTail, List.append_nil, List.append_nil, hBehindSpace, if_pos rfl]
  | cons c others =>
      have hStarts : isBlank c = false := h.value_starts
      rw [if_neg (List.cons_ne_nil _ _)]
      exact progress_value hBehindSpace hStarts

/-- **A run has come to its value** when it has one, and its second word is an
operator. -/
theorem stage_eq_value_iff (h : Parts run column gap word space value tail) :
    (progress run).1 = .value ↔
      value ≠ [] ∧ Keyword.isMatcherOperator word = true := by
  rw [stage_of_parts h]
  constructor
  · intro hStage
    split_ifs at hStage with _ _ _ hOperator hValue
    exact ⟨hValue, by simpa using hOperator⟩
  · rintro ⟨hValue, hOperator⟩
    have hSpace := mt h.space_missing hValue
    have hWord := mt h.word_missing hSpace
    have hGap := mt h.gap_missing hWord
    rw [if_neg hGap, if_neg hWord, if_neg hSpace, hOperator,
      if_neg Bool.false_ne_true.symm, if_neg hValue]

/-- Where some of the value is read, the run has come to its value. -/
theorem stage_of_begun (h : Parts run column gap word space value tail)
    (hValue : value ≠ []) (hWord : Keyword.isMatcherOperator word = true)
    {begun : Text} (hBegun : begun ≠ []) (hStarts : begun.startsBlank = false) :
    (progress (column ++ (gap ++ (word ++ (space ++ begun))))).1 = .value := by
  obtain ⟨kept, after, hSplit, hKept, hAfter⟩ := Text.cut_tail begun
  have hSome : kept ≠ [] := by
    intro hNone
    rw [hNone, List.nil_append] at hSplit
    subst hSplit
    rw [Text.startsBlank_of_blanks hBegun hAfter] at hStarts
    cases hStarts
  have hParts : Parts (column ++ (gap ++ (word ++ (space ++ begun)))) column gap
      word space kept after := by
    refine { h with
      run_eq := by rw [hSplit]
      value_starts := ?_
      value_ends := hKept
      tail_blank := hAfter
      space_missing := fun hNone => absurd (h.space_missing hNone) hValue
      value_missing := fun hNone => absurd hNone hSome }
    rw [hSplit, Text.startsBlank_append_of_ne_nil hSome] at hStarts
    exact hStarts
  rw [stage_eq_value_iff hParts]
  exact ⟨hSome, hWord⟩

/-- **The groups of a run are its parts.** -/
theorem groups_of_parts (h : Parts run column gap word space value tail) :
    groups run = [(.column, column), (.whitespace, gap), (.comparator, word),
      (.whitespace, space), (.value, value), (.whitespace, tail)] := by
  have hFromGap : run.dropWhile (fun c => !isBlank c) =
      gap ++ (word ++ (space ++ (value ++ tail))) := by
    rw [h.run_eq]
    exact Text.dropWhile_word h.column_solid h.behind_column
  have hFromWord := Text.dropWhile_blanks h.gap_blank h.behind_gap
  have hFromSpace := Text.dropWhile_word h.word_solid h.behind_word
  have hFromValue := Text.dropWhile_blanks h.space_blank h.behind_space
  have hColumn : run.takeWhile (fun c => !isBlank c) = column := by
    rw [h.run_eq]
    exact Text.takeWhile_word h.column_solid h.behind_column
  have hGap := Text.takeWhile_blanks h.gap_blank h.behind_gap
  have hWord := Text.takeWhile_word h.word_solid h.behind_word
  have hSpace := Text.takeWhile_blanks h.space_blank h.behind_space
  have hValue := Text.dropWhile_tail h.value_ends h.tail_blank
  simp only [groups, hFromGap, hFromWord, hFromSpace, hFromValue, hColumn, hGap,
    hWord, hSpace, hValue, List.drop_left]

end Parts

/-! ## Leaves -/

/-- The leaves are the groups that hold something. -/
theorem map_leaves (groups : List (TokenKind × Text)) :
    ∀ start : Nat, (leaves groups start).map (fun part => (part.kind, part.value)) =
      groups.filter (fun group => group.2 ≠ []) := by
  induction groups with
  | nil => intro start; rfl
  | cons group groups ih =>
      obtain ⟨kind, piece⟩ := group
      intro start
      rw [leaves]
      by_cases hPiece : piece = []
      · rw [if_pos hPiece, ih]
        simp [hPiece]
      · rw [if_neg hPiece, List.map_cons, ih]
        simp [hPiece, Token.leaf]

theorem filled_leaves (groups : List (TokenKind × Text)) (start : Nat) :
    ∀ part ∈ leaves groups start, part.value ≠ [] := by
  intro part hPart
  have hPair : (part.kind, part.value) ∈
      (leaves groups start).map fun part => (part.kind, part.value) :=
    List.mem_map_of_mem hPart
  rw [map_leaves, List.mem_filter] at hPair
  exact of_decide_eq_true hPair.2

theorem leaves_append (front groups : List (TokenKind × Text)) :
    ∀ start : Nat, leaves (front ++ groups) start =
      leaves front start ++
        leaves groups (start + (front.flatMap Prod.snd).length) := by
  induction front with
  | nil => intro start; rfl
  | cons group front ih =>
      obtain ⟨kind, piece⟩ := group
      intro start
      rw [List.cons_append, leaves, leaves]
      by_cases hPiece : piece = []
      · rw [if_pos hPiece, if_pos hPiece, ih]
        simp [hPiece]
      · rw [if_neg hPiece, if_neg hPiece, ih]
        simp [Nat.add_assoc]

/-- The first leaf of a kind holds the first group of that kind that holds
something. -/
theorem find?_leaves (groups : List (TokenKind × Text)) (start : Nat)
    (kind : TokenKind) :
    ((leaves groups start).find? (·.kind == kind)).map Token.value =
      (groups.find? fun group =>
        group.1 == kind && !group.2.isEmpty).map Prod.snd := by
  have hFilled : (groups.filter (fun group => group.2 ≠ [])).find?
      (·.1 == kind) = groups.find? fun group =>
        group.1 == kind && !group.2.isEmpty := by
    rw [List.find?_filter]
    congr 1
    funext group
    rw [Bool.eq_iff_iff]
    simp [and_comm]
  rw [← hFilled, ← map_leaves groups start, List.find?_map, Option.map_map]
  rfl

/-- A composite token has the parts it was made of. -/
theorem children_composite {kind : TokenKind} {parts : List Token}
    {token : Token} (hToken : Token.composite kind parts = some token) :
    token.kind = kind ∧ token.children = parts := by
  unfold Token.composite at hToken
  split at hToken
  · cases hToken
    exact ⟨rfl, rfl⟩
  · cases hToken

section Children

variable {run column gap word space value tail : Text} {start : Nat}
  {token : Token}

/-- What a triple's token holds of each kind. -/
private theorem child?_composite
    (hToken : Token.composite .matcher (split run start) = some token)
    (kind : TokenKind) :
    (token.child? kind).map Token.value =
      ((groups run).find? fun group =>
        group.1 == kind && !group.2.isEmpty).map Prod.snd := by
  rw [Token.child?, (children_composite hToken).2]
  exact find?_leaves (groups run) start kind

theorem child?_column (h : Parts run column gap word space value tail)
    (hToken : Token.composite .matcher (split run start) = some token) :
    (token.child? .column).map Token.value =
      if column = [] then none else some column := by
  rw [child?_composite hToken, groups_of_parts h]
  by_cases hColumn : column = [] <;> simp [hColumn]

theorem child?_comparator (h : Parts run column gap word space value tail)
    (hToken : Token.composite .matcher (split run start) = some token) :
    (token.child? .comparator).map Token.value =
      if word = [] then none else some word := by
  rw [child?_composite hToken, groups_of_parts h]
  by_cases hWord : word = [] <;> simp [hWord]

theorem child?_value (h : Parts run column gap word space value tail)
    (hToken : Token.composite .matcher (split run start) = some token) :
    (token.child? .value).map Token.value =
      if value = [] then none else some value := by
  rw [child?_composite hToken, groups_of_parts h]
  by_cases hValue : value = [] <;> simp [hValue]

/-- The value stands behind the parts before it. -/
theorem start_child?_value (h : Parts run column gap word space value tail)
    (hToken : Token.composite .matcher (split run start) = some token)
    {part : Token} (hPart : token.child? .value = some part) :
    value ≠ [] ∧
      part.start = start + (column ++ (gap ++ (word ++ space))).length := by
  have hValue : value ≠ [] := by
    intro hNone
    have hChild := child?_value h hToken
    rw [hPart, if_pos hNone] at hChild
    cases hChild
  refine ⟨hValue, ?_⟩
  have hSplit : split run start =
      leaves [(.column, column), (.whitespace, gap), (.comparator, word),
          (.whitespace, space)] start ++
        leaves [(.value, value), (.whitespace, tail)]
          (start + (column ++ (gap ++ (word ++ space))).length) := by
    rw [split, groups_of_parts h]
    have hLeaves := leaves_append [(.column, column), (.whitespace, gap),
      (.comparator, word), (.whitespace, space)]
      [(.value, value), (.whitespace, tail)] start
    simpa using hLeaves
  have hFront : (leaves [(.column, column), (.whitespace, gap),
      (.comparator, word), (.whitespace, space)] start).find?
        (·.kind == .value) = none := by
    have hFound := find?_leaves [(.column, column), (.whitespace, gap),
      (.comparator, word), (.whitespace, space)] start .value
    simpa using hFound
  rw [Token.child?, (children_composite hToken).2, hSplit, List.find?_append,
    hFront, Option.none_or, leaves, if_neg hValue] at hPart
  simp only [Token.leaf, List.find?_cons, beq_self_eq_true,
    Option.some.injEq] at hPart
  rw [← hPart]

end Children

/-- Groups make a token when one of them holds something. -/
theorem exists_composite_leaves (kind : TokenKind)
    {groups : List (TokenKind × Text)}
    (hSome : ∃ group ∈ groups, group.2 ≠ []) (start : Nat) :
    ∃ token, Token.composite kind (leaves groups start) = some token := by
  obtain ⟨group, hGroup, hFilled⟩ := hSome
  have hLeaves : leaves groups start ≠ [] := by
    intro hNil
    have hMap := map_leaves groups start
    rw [hNil, List.map_nil, eq_comm, List.filter_eq_nil_iff] at hMap
    exact hMap group hGroup (decide_eq_true hFilled)
  obtain ⟨first, others, hCons⟩ := List.exists_cons_of_ne_nil hLeaves
  rw [hCons, Token.composite, List.head?_cons, List.getLast?_cons]
  exact ⟨_, rfl⟩

/-- A run that is not empty makes a token. -/
theorem exists_composite {run : Text} (hRun : run ≠ []) (start : Nat) :
    ∃ token, Token.composite .matcher (split run start) = some token := by
  obtain ⟨column, gap, word, space, value, tail, h⟩ := exists_parts run
  apply exists_composite_leaves
  by_contra hNone
  rw [groups_of_parts h] at hNone
  apply hRun
  rw [h.run_eq]
  simp at hNone
  simp [hNone]

end QueryPhrase.MatcherTriple
