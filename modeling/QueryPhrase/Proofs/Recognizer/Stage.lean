import Mathlib.Data.List.Basic
import QueryPhrase.Proofs.Recognizer.Triple

/-!
# The stage of a triple and its parts

A triple is read twice. While its characters come in, a machine of six stages
follows how far it has come; once it is whole, it is cut into parts. The stage
decides where the triple may end, and the parts are what its token is made of,
so the two have to agree on every text, whole or not, and with blanks at either
end.

Both are told by the six groups of the text. For the stage this is
`stage_of_parts`. Here it is said of the parts: whether there is a second word
or a value, whether blanks follow the second word, and whether it is the last.
As there is only one part for the second word, and the parts before it are never
missing, each of these asks for one group only.

## Main definitions

* `MatcherTriple.ToldByParts` — what each stage says of the parts.

## Main results

* `MatcherTriple.exists_comparator_iff`, `MatcherTriple.exists_followed_iff`,
  `MatcherTriple.exists_last_iff` — the second word among the parts.
* `MatcherTriple.stage_told_by_parts` — the stage after a text agrees with the
  parts of that text.
-/

namespace QueryPhrase.MatcherTriple

/-- What the stages say of the parts of a text: the second word is the part of
the kind `comparator`. -/
structure ToldByParts (stage : Stage) (parts : List Token) : Prop where
  value : stage = .value ↔
    (∃ part ∈ parts, part.kind = .comparator ∧
      Keyword.isMatcherOperator part.value = true) ∧
    ∃ part ∈ parts, part.kind = .value
  /-- There is an operator with blanks right behind it, and no value. -/
  afterOperator : stage = .afterOperator ↔
    (∃ part blanks, [part, blanks] <:+: parts ∧ part.kind = .comparator ∧
      Keyword.isMatcherOperator part.value = true ∧
        blanks.kind = .whitespace) ∧
    ¬ ∃ part ∈ parts, part.kind = .value
  noOperator : stage = .noOperator ↔
    ∃ part blanks, [part, blanks] <:+: parts ∧ part.kind = .comparator ∧
      Keyword.isMatcherOperator part.value = false ∧ blanks.kind = .whitespace
  /-- The second word is where the text ends. -/
  operator : stage = .operator ↔
    ∃ part, parts.getLast? = some part ∧ part.kind = .comparator
  column : stage = .column ∨ stage = .afterColumn ↔
    ¬ ∃ part ∈ parts, part.kind = .comparator

/-! ## Parts by groups -/

/-- The parts are the groups that hold something. -/
theorem exists_mem_leaves_iff (groups : List (TokenKind × Text)) (start : Nat)
    (holds : TokenKind → Text → Prop) :
    (∃ part ∈ leaves groups start, holds part.kind part.value) ↔
      ∃ group ∈ groups, group.2 ≠ [] ∧ holds group.1 group.2 := by
  have hMap := map_leaves groups start
  calc (∃ part ∈ leaves groups start, holds part.kind part.value)
      ↔ ∃ pair ∈ (leaves groups start).map fun part =>
          (part.kind, part.value), holds pair.1 pair.2 := by simp
    _ ↔ ∃ group ∈ groups, group.2 ≠ [] ∧ holds group.1 group.2 := by
        rw [hMap]
        simp only [List.mem_filter, decide_eq_true_eq, and_assoc]

/-- There is no part of a kind of which there is no group. -/
theorem kind_ne_of_mem_leaves {groups : List (TokenKind × Text)} {start : Nat}
    {kind : TokenKind} {part : Token} (hPart : part ∈ leaves groups start)
    (hKinds : kind ∉ groups.map Prod.fst) : part.kind ≠ kind := by
  rintro rfl
  obtain ⟨group, hGroup, _, hKind⟩ := (exists_mem_leaves_iff groups start
    (fun other _ => other = part.kind)).mp ⟨part, hPart, rfl⟩
  exact hKinds (List.mem_map.mpr ⟨group, hGroup, hKind⟩)

theorem leaves_cons_of_ne_nil {piece : Text} (hPiece : piece ≠ [])
    (kind : TokenKind) (groups : List (TokenKind × Text)) (start : Nat) :
    leaves ((kind, piece) :: groups) start =
      .leaf kind piece start :: leaves groups (start + piece.length) := by
  rw [leaves, if_neg hPiece]

section Parts

variable {run column gap word space value tail : Text}

theorem exists_mem_split_iff (h : Parts run column gap word space value tail)
    (start : Nat) (holds : TokenKind → Text → Prop) :
    (∃ part ∈ split run start, holds part.kind part.value) ↔
      ∃ group ∈ [(TokenKind.column, column), (.whitespace, gap),
          (.comparator, word), (.whitespace, space), (.value, value),
          (.whitespace, tail)],
        group.2 ≠ [] ∧ holds group.1 group.2 := by
  rw [split, exists_mem_leaves_iff, groups_of_parts h]

theorem exists_comparator_iff (h : Parts run column gap word space value tail)
    (start : Nat) :
    (∃ part ∈ split run start, part.kind = .comparator) ↔ word ≠ [] := by
  rw [exists_mem_split_iff h start fun kind _ => kind = .comparator]
  simp

theorem exists_judged_iff (h : Parts run column gap word space value tail)
    (start : Nat) (verdict : Bool) :
    (∃ part ∈ split run start, part.kind = .comparator ∧
      Keyword.isMatcherOperator part.value = verdict) ↔
        word ≠ [] ∧ Keyword.isMatcherOperator word = verdict := by
  rw [exists_mem_split_iff h start fun kind text =>
    kind = .comparator ∧ Keyword.isMatcherOperator text = verdict]
  simp

theorem exists_value_iff (h : Parts run column gap word space value tail)
    (start : Nat) :
    (∃ part ∈ split run start, part.kind = .value) ↔ value ≠ [] := by
  rw [exists_mem_split_iff h start fun kind _ => kind = .value]
  simp

/-! ## The second word and its neighbours -/

/-- The second word and what is behind it follow the column and its gap. -/
theorem split_of_parts (h : Parts run column gap word space value tail)
    (start : Nat) :
    split run start =
      leaves [(.column, column), (.whitespace, gap)] start ++
        leaves [(.comparator, word), (.whitespace, space), (.value, value),
          (.whitespace, tail)] (start + (column ++ gap).length) := by
  rw [split, groups_of_parts h]
  have hLeaves := leaves_append [(.column, column), (.whitespace, gap)]
    [(.comparator, word), (.whitespace, space), (.value, value),
      (.whitespace, tail)] start
  simpa using hLeaves

/-- A run without blanks behind its second word ends with that. -/
private theorem split_of_no_space
    (h : Parts run column gap word space value tail) (hWord : word ≠ [])
    (hSpace : space = []) (start : Nat) :
    split run start = leaves [(.column, column), (.whitespace, gap)] start ++
      [.leaf .comparator word (start + (column ++ gap).length)] := by
  have hValue := h.space_missing hSpace
  have hTail := h.value_missing hValue
  rw [split_of_parts h, leaves_cons_of_ne_nil hWord, hSpace, hValue, hTail]
  rfl

/-- With such blanks, these follow it. -/
private theorem split_of_space
    (h : Parts run column gap word space value tail) (hSpace : space ≠ [])
    (start : Nat) :
    split run start =
      leaves [(.column, column), (.whitespace, gap)] start ++
        .leaf .comparator word (start + (column ++ gap).length) ::
          leaves [(.whitespace, space), (.value, value), (.whitespace, tail)]
            (start + (column ++ gap).length + word.length) := by
  have hWord := mt h.word_missing hSpace
  rw [split_of_parts h, leaves_cons_of_ne_nil hWord]

/-- The second word has blanks behind it when there is the group of these. -/
theorem exists_followed_iff (h : Parts run column gap word space value tail)
    (start : Nat) (verdict : Bool) :
    (∃ part blanks, [part, blanks] <:+: split run start ∧
      part.kind = .comparator ∧
        Keyword.isMatcherOperator part.value = verdict ∧
          blanks.kind = .whitespace) ↔
      space ≠ [] ∧ Keyword.isMatcherOperator word = verdict := by
  constructor
  · rintro ⟨part, blanks, hInfix, hKind, hVerdict, _⟩
    have hMem : part ∈ split run start := hInfix.subset (List.mem_cons_self ..)
    obtain ⟨hWord, hJudged⟩ :=
      (exists_judged_iff h start verdict).mp ⟨part, hMem, hKind, hVerdict⟩
    refine ⟨?_, hJudged⟩
    intro hSpace
    -- Something follows the part, so it is before the last one.
    obtain ⟨before, behind, hSplit⟩ := hInfix
    rw [split_of_no_space h hWord hSpace] at hSplit
    have hFront := congrArg List.dropLast hSplit
    rw [List.dropLast_concat, List.append_assoc, List.cons_append,
      List.append_cons, List.dropLast_append_of_ne_nil (by simp)] at hFront
    have hPart : part ∈
        leaves [(.column, column), (.whitespace, gap)] start := by
      rw [← hFront]
      simp
    exact kind_ne_of_mem_leaves hPart (by simp) hKind
  · rintro ⟨hSpace, hVerdict⟩
    rw [split_of_space h hSpace, leaves_cons_of_ne_nil hSpace]
    exact ⟨_, _, ⟨_, _, List.append_assoc ..⟩, rfl, hVerdict, rfl⟩

/-- The second word is the last part when it has no blanks behind it. -/
theorem exists_last_iff (h : Parts run column gap word space value tail)
    (start : Nat) :
    (∃ part, (split run start).getLast? = some part ∧
      part.kind = .comparator) ↔ word ≠ [] ∧ space = [] := by
  constructor
  · rintro ⟨part, hLast, hKind⟩
    have hWord := (exists_comparator_iff h start).mp
      ⟨part, List.mem_of_getLast? hLast, hKind⟩
    refine ⟨hWord, ?_⟩
    by_contra hSpace
    have hBack := leaves_cons_of_ne_nil hSpace .whitespace
      [(.value, value), (.whitespace, tail)]
      (start + (column ++ gap).length + word.length)
    rw [split_of_space h hSpace, List.append_cons,
      List.getLast?_append_of_ne_nil _ (by rw [hBack]; simp)] at hLast
    exact kind_ne_of_mem_leaves (List.mem_of_getLast? hLast) (by simp) hKind
  · rintro ⟨hWord, hSpace⟩
    rw [split_of_no_space h hWord hSpace, List.getLast?_concat]
    exact ⟨_, rfl, rfl⟩

end Parts

/-- The stage and the parts are told by the same groups. -/
theorem toldByParts_progress (text : Text) (start : Nat) :
    ToldByParts (progress text).1 (split text start) := by
  obtain ⟨column, gap, word, space, value, tail, h⟩ := exists_parts text
  have hStage := stage_of_parts h
  have hNoWord := h.gap_missing
  have hNoSpace := h.word_missing
  have hNoValue := h.space_missing
  refine ⟨?_, ?_, ?_, ?_, ?_⟩
  · rw [exists_judged_iff h, exists_value_iff h, hStage]
    grind
  · rw [exists_followed_iff h, exists_value_iff h, hStage]
    grind
  · rw [exists_followed_iff h, hStage]
    grind
  · rw [exists_last_iff h, hStage]
    grind
  · rw [exists_comparator_iff h, hStage]
    grind

/-- **The stage agrees with the parts.** A unit for triples, whatever it held
before, that is reset and reads a text character by character has come as far as
the parts of that text say. -/
theorem stage_told_by_parts (triple : MatcherTriple) (start : Nat)
    (text : Text) :
    ∃ read, Recognizer.seeded (GrammarUnit.matcher triple) start text =
        .matcher read ∧ read.buffer = .ofText start text ∧
      ToldByParts read.stage (split read.buffer.value read.buffer.start) := by
  refine ⟨.read start text, GrammarUnit.seeded_matcher _ _ _, ?_⟩
  rw [read_eq]
  exact ⟨rfl, toldByParts_progress text start⟩

end QueryPhrase.MatcherTriple
