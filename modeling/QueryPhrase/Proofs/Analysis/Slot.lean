import QueryPhrase.Completion
import QueryPhrase.Proofs.Analysis.Site
import QueryPhrase.Proofs.Lexer.Form

/-!
# Completions between the words of a triple

Blanks in a triple stand before its second word or behind it. Before it, or where
it is still missing, an operator fits there, and behind it a value of the column.
What is offered does not depend on the place of the blanks, though: as soon as
there is a second word, values are offered on either side of it.

## Main definitions

* `Vocabulary.fitting` — what fits blanks in a triple by their place.

## Main results

* `Lexer.exists_triple_of_part` — a token with parts is a triple with a column.
* `Analysis.suggest_between` — what is offered at blanks in a triple.
* `Grammar.suggest_fitting_iff` — it is what fits there, unless the second word is
  still ahead.
-/

namespace QueryPhrase

/-- A token with parts is a triple, and a triple has a column and no field. -/
theorem Lexer.exists_triple_of_part {text : Text} {triple part : Token}
    (hTriple : triple ∈ Grammar.matcher.tokens text)
    (hPart : part ∈ triple.children) :
    triple.kind = .matcher ∧ triple.child? .field = none ∧
      ∃ column, triple.child? .column = some column := by
  have hCut := cut_tokens text
  obtain ⟨front, back, hTokens⟩ := List.append_of_mem hTriple
  rw [hTokens] at hCut
  obtain ⟨seen, run, rest, _, hPiece, _⟩ := hCut.at_token
  cases hPiece with
  | blanks _ _ _ => cases hPart
  | connective _ _ => cases hPart
  | triple hRun hToken =>
      obtain ⟨hKind, hChildren⟩ := MatcherTriple.children_composite hToken
      obtain ⟨column, gap, word, space, value, tail, hParts⟩ :=
        MatcherTriple.exists_parts run
      have hColumn := MatcherTriple.child?_column hParts hToken
      rw [if_neg (hRun.column_ne_nil hParts)] at hColumn
      obtain ⟨part, hPart, _⟩ := Option.map_eq_some_iff.mp hColumn
      refine ⟨hKind, ?_, part, hPart⟩
      have hField := MatcherTriple.find?_leaves (MatcherTriple.groups run)
        ([] ++ seen).length .field
      rw [MatcherTriple.groups_of_parts hParts] at hField
      rw [Token.child?, hChildren, MatcherTriple.split,
        MatcherTriple.groups_of_parts hParts]
      simpa using hField

/-- What fits blanks in a triple: a value of its column behind the second word,
and an operator before it or where there is none. -/
def Vocabulary.fitting (known : Vocabulary) (triple blanks : Token) :
    List Text :=
  match triple.child? .column, triple.child? .comparator with
  | some column, some comparator =>
    if comparator.stop < blanks.start then known.valuesOf column.value
    else Keyword.matcherOperators
  | _, _ => Keyword.matcherOperators

/-- At blanks in a triple everything is offered that the slot holds: operators
until there is a second word, and from then on values. -/
theorem Analysis.suggest_between {analysis : Analysis}
    {blanks triple column : Token} (hCurrent : analysis.current = some blanks)
    (hBlank : blanks.kind = .whitespace)
    (hSite : analysis.site = insertion (some triple))
    (hTriple : triple.kind = .matcher) (hField : triple.child? .field = none)
    (hColumn : triple.child? .column = some column) (known : Vocabulary) :
    (Suggester.vocabulary known).suggest analysis =
      if (triple.child? .comparator).isSome then known.valuesOf column.value
      else Keyword.matcherOperators := by
  have hSlot : analysis.slot =
      if (triple.child? .comparator).isSome then .value (some column.value)
      else .comparator := by
    simp [slot, hCurrent, hBlank, hSite, insertion, hTriple, columnOf, hField,
      hColumn]
  have hTyped : analysis.site.typed = [] := by rw [hSite]; rfl
  rw [Suggester.suggest, Suggester.pool, hSlot, hTyped, narrow, if_pos rfl]
  split
  · rfl
  · rfl

/-- **What is offered at blanks in a triple** is what fits there, whatever the
vocabulary, unless the second word is still ahead of them: then it is a value,
too. -/
theorem Grammar.suggest_fitting_iff {text : Text} {cursor : Nat}
    {blanks triple : Token}
    (hCurrent : (Grammar.matcher.analyze text cursor).current = some blanks)
    (hBlank : blanks.kind = .whitespace)
    (hParent : (Grammar.matcher.analyze text cursor).parent = some triple) :
    triple.kind = .matcher ∧ ∃ column, triple.child? .column = some column ∧
      (∀ known : Vocabulary, (Suggester.vocabulary known).suggest
          (Grammar.matcher.analyze text cursor) =
        if (triple.child? .comparator).isSome then known.valuesOf column.value
        else Keyword.matcherOperators) ∧
      ((∀ known : Vocabulary, (Suggester.vocabulary known).suggest
          (Grammar.matcher.analyze text cursor) =
            known.fitting triple blanks) ↔
        ¬ ∃ comparator, triple.child? .comparator = some comparator ∧
          blanks.stop < comparator.start) := by
  have hText : text ≠ [] := by
    rintro rfl
    cases hCurrent
  obtain ⟨current, parent, hAnalysis, hLocated⟩ :=
    Lexer.exists_analyze_eq Grammar.matcher.units text cursor hText
  have hSame : Grammar.matcher.analyze text cursor = _ := hAnalysis
  rw [hSame, Option.some.injEq] at hCurrent
  rw [hSame] at hParent
  subst hCurrent hParent
  rw [hAnalysis] at hLocated
  obtain ⟨hMem, hPart⟩ := (hLocated.parent_some_iff triple).mp rfl
  obtain ⟨hKind, hField, column, hColumn⟩ :=
    Lexer.exists_triple_of_part hMem hPart
  have hSite := Analysis.siteOf_of_inserts (some triple)
    (Or.inl hBlank : Analysis.Inserts current (min cursor text.length))
  have hOffered := Analysis.suggest_between hLocated.current_eq hBlank hSite
    hKind hField hColumn
  rw [hSame]
  refine ⟨hKind, column, hColumn, hOffered, ?_⟩
  cases hWord : triple.child? .comparator with
  | none => simp [hOffered, Vocabulary.fitting, hWord]
  | some comparator =>
      have hChild : comparator ∈ triple.children :=
        List.mem_of_find?_eq_some hWord
      have hOther : current ≠ comparator := by
        rintro rfl
        have hFound := List.find?_some hWord
        rw [hBlank] at hFound
        cases hFound
      have hTiles := (Analysis.tiles_children
        (Lexer.tokens_tile Grammar.matcher.units text) hMem hPart).2
      have hBlanks := (hTiles.covers current hPart).length_pos
      have hLetters := (hTiles.covers comparator hChild).length_pos
      rw [Token.length] at hBlanks hLetters
      simp only [hOffered, Vocabulary.fitting, hColumn, hWord, Option.isSome_some,
        if_true, Option.some.injEq, exists_eq_left']
      rcases hTiles.apart hPart hChild hOther with hAhead | hBehind
      · have hNot : ¬ comparator.stop < current.start := by omega
        simp only [if_neg hNot, hAhead, not_true_eq_false, iff_false]
        -- A vocabulary without values has none to offer.
        intro hAll
        have hNone : ([] : List Text) = Keyword.matcherOperators :=
          hAll ⟨[], [], []⟩
        cases hNone
      · have hNot : ¬ current.stop < comparator.start := by omega
        simp only [if_pos hBehind, hNot, not_false_eq_true, implies_true]

/-- Blanks and the triple they stand in are found by looking. -/
private theorem exists_blanks_of_any {analysis : Analysis}
    {p : Token → Token → Bool} (h : (analysis.current.any fun blanks =>
      analysis.parent.any fun triple => p blanks triple) = true) :
    ∃ blanks triple, analysis.current = some blanks ∧
      analysis.parent = some triple ∧ p blanks triple = true := by
  obtain ⟨blanks, hBlanks, hHolds⟩ := (Option.any_eq_true _ _).mp h
  obtain ⟨triple, hTriple, hBoth⟩ := (Option.any_eq_true _ _).mp hHolds
  exact ⟨blanks, triple, hBlanks, hTriple, hBoth⟩

/-- Two blanks behind the second word, the cursor between them. -/
theorem Grammar.suggest_fitting_iff_of_behind :
    let text : Text := "status =  open"
    let analysis := Grammar.matcher.analyze text 9
    ∃ blanks triple, analysis.current = some blanks ∧
      blanks.kind = .whitespace ∧ analysis.parent = some triple ∧
      (triple.kind = .matcher ∧ ∃ column, triple.child? .column = some column ∧
        (∀ known : Vocabulary, (Suggester.vocabulary known).suggest analysis =
          if (triple.child? .comparator).isSome then
            known.valuesOf column.value
          else Keyword.matcherOperators) ∧
        ((∀ known : Vocabulary, (Suggester.vocabulary known).suggest analysis =
            known.fitting triple blanks) ↔
          ¬ ∃ comparator, triple.child? .comparator = some comparator ∧
            blanks.stop < comparator.start)) := by
  intro text analysis
  obtain ⟨blanks, triple, hCurrent, hParent, hBlank⟩ :=
    @exists_blanks_of_any analysis (fun blanks _ => blanks.kind == .whitespace)
      (by decide +kernel)
  have hKind := eq_of_beq hBlank
  exact ⟨blanks, triple, hCurrent, hKind, hParent,
    Grammar.suggest_fitting_iff hCurrent hKind hParent⟩

/-- Between a column and the second word, values of the column are offered. -/
theorem Grammar.suggest_ne_fitting_of_ahead :
    let known : Vocabulary := ⟨["status"], [("status", ["open", "closed"])], []⟩
    let analysis := Grammar.matcher.analyze "status = open" 7
    (Suggester.vocabulary known).suggest analysis =
        (["open", "closed"] : List Text) ∧
      ∃ blanks triple comparator, analysis.current = some blanks ∧
        blanks.kind = .whitespace ∧ analysis.parent = some triple ∧
        triple.child? .comparator = some comparator ∧
        blanks.stop < comparator.start ∧
        known.fitting triple blanks = Keyword.matcherOperators := by
  intro known analysis
  refine ⟨by decide +kernel, ?_⟩
  obtain ⟨blanks, triple, hCurrent, hParent, hBoth⟩ :=
    @exists_blanks_of_any analysis
      (fun blanks triple => blanks.kind == .whitespace &&
        (triple.child? .comparator).any fun comparator =>
          blanks.stop < comparator.start &&
            known.fitting triple blanks == Keyword.matcherOperators)
      (by decide +kernel)
  rw [Bool.and_eq_true, Option.any_eq_true] at hBoth
  obtain ⟨hKind, comparator, hComparator, hRest⟩ := hBoth
  rw [Bool.and_eq_true, decide_eq_true_iff, beq_iff_eq] at hRest
  exact ⟨blanks, triple, comparator, hCurrent, eq_of_beq hKind, hParent,
    hComparator, hRest⟩

end QueryPhrase
