import QueryPhrase.Proofs.Lexer.Form
import QueryPhrase.Proofs.TermList.Phrase
import QueryPhrase.Proofs.TermList.Plain

/-!
# Writing a list that was read

A list that was read from a phrase can be written as a phrase again. Its columns
are words, but they may hold quotes, and a column is written as it is. So the
phrase that is written is not always read as the same list: behind a column that
leaves a quote open, a value goes on past its end or is over inside its own
quotes.

The phrase gives the list back exactly when every matcher but the last has its
column closed, and the last one too, unless no connective stands between blanks
in its value. For the one direction the written phrase is cut. For the other one
the first matcher that breaks is read with another value, and the matchers of a
list are those that were read, in order.

## Main results

* `TermList.written_ofPhrase` — what a list that was read is like.
* `Term.Written.allReadBack_of_cut` — if the cut of a phrase has the matchers it
  was written from, then every term is read as it was written.
* `TermList.reread_iff` — when a list that was read and written is read as the
  same list.
-/

namespace QueryPhrase

namespace Term

/-- What a token of a phrase gives: a matcher on a column that a matcher phrase
may begin with, or a bare separator. -/
inductive Phrased : Term → Prop
  | matcher {column : Text} {operator : Operator} {value : Option Text} :
    operator.kind = .matcher → WordColumn column →
      Phrased ⟨none, some column, operator, value⟩
  | separator {operator : Operator} : operator.kind = .separator →
    Phrased (ofSeparator operator)

theorem Phrased.plain {term : Term} (h : term.Phrased) :
    term.Plain ∧ term.kind ≠ .sorter := by
  cases h with
  | @matcher column operator value hOperator hColumn =>
      have hKind : (⟨none, some column, operator, value⟩ : Term).kind =
          .matcher := hOperator
      refine ⟨⟨?_, ?_⟩, ?_⟩
      · intro hEmpty
        exact hColumn.ne_nil (Option.some.inj hEmpty)
      · intro hSeparator
        rw [hKind] at hSeparator
        cases hSeparator
      · rw [hKind]
        decide
  | @separator operator hOperator =>
      have hKind : (ofSeparator operator).kind = .separator := hOperator
      refine ⟨⟨by simp [ofSeparator], fun _ => ⟨rfl, rfl⟩⟩, ?_⟩
      rw [hKind]
      decide

theorem Phrased.wordColumn {term : Term} (h : term.withoutId.Phrased)
    (hKind : term.kind = .matcher) :
    ∃ column, term.column = some column ∧ WordColumn column := by
  cases term with
  | mk id column operator value =>
      cases h with
      | matcher _ hColumn => exact ⟨_, rfl, hColumn⟩
      | separator hOperator => exact absurd (hKind.symm.trans hOperator) (by decide)

theorem withoutIds_of_phrased {terms : List Term}
    (h : ∀ term ∈ terms, term.Phrased) : withoutIds terms = terms := by
  have hSame : ∀ term ∈ terms, term.withoutId = term := by
    intro term hTerm
    cases h term hTerm with
    | matcher _ _ => rfl
    | separator _ => rfl
  exact (List.map_congr_left hSame).trans (List.map_id' terms)

end Term

/-! ## What is read from a phrase -/

namespace Lexer

open MatcherTriple Term

variable {before run rest : Text} {token : Token} {tokens : List Token}

theorem IsTriple.wordColumn {column gap word space value tail : Text}
    (h : IsTriple run rest)
    (hParts : Parts run column gap word space value tail) :
    WordColumn column := by
  have hSome := h.column_ne_nil hParts
  refine ⟨hSome, hParts.column_solid, ?_⟩
  by_contra hSeparator
  rw [Bool.not_eq_false] at hSeparator
  have hRun := hParts.run_eq
  rcases hParts.behind_column with hNone | hBlank
  · rw [hNone, List.append_nil] at hRun
    rw [← hRun] at hSeparator
    exact h.not_connective ⟨hSeparator, h.whole.endsWord⟩
  · have hMore : gap ++ (word ++ (space ++ (value ++ tail))) ≠ [] := by
      intro hNone
      rw [hNone] at hBlank
      cases hBlank
    have hPlace := h.passes column _ hSome hMore hRun.symm
    apply hPlace.not_connective
    refine ⟨hSeparator, Or.inr ?_⟩
    rw [Text.startsBlank_append_of_ne_nil hMore]
    exact hBlank

theorem Piece.phrased (h : Piece before run rest token) {term : Term}
    (hTerm : ofToken token = some term) : term.Phrased := by
  cases h with
  | blanks _ _ _ => cases hTerm
  | connective _ _ =>
      obtain ⟨operator, hOperator, hSame⟩ := Option.map_eq_some_iff.mp hTerm
      rw [← hSame]
      exact .separator (Operator.kind_of_ofKind? hOperator)
  | triple hTriple hToken =>
      obtain ⟨column, gap, word, space, value, tail, hParts⟩ := exists_parts run
      rw [ofToken_of_parts hParts (hTriple.column_ne_nil hParts) hToken,
        Option.map_eq_some_iff] at hTerm
      obtain ⟨operator, hOperator, hSame⟩ := hTerm
      rw [← hSame]
      exact .matcher (Operator.kind_of_ofKind? hOperator) (hTriple.wordColumn hParts)

/-- Only the last term that is read can be a matcher without a value. -/
theorem Cut.terms {text : Text} (h : Cut before text tokens) :
    (∀ term ∈ tokens.filterMap ofToken, term.Phrased) ∧
      (tokens.filterMap ofToken).Pairwise fun term _ =>
        term.kind = .matcher → term.value.isSome = true := by
  induction h with
  | nil before => exact ⟨by simp, .nil⟩
  | @cons before run rest token tokens hPiece hTokens ih =>
      cases hTerm : ofToken token with
      | none =>
          rw [List.filterMap_cons_none hTerm]
          exact ih
      | some term =>
          rw [List.filterMap_cons_some hTerm, List.forall_mem_cons,
            List.pairwise_cons]
          refine ⟨⟨hPiece.phrased hTerm, ih.1⟩, ?_, ih.2⟩
          intro later hLater hKind
          have hRest : rest ≠ [] := by
            rintro rfl
            rw [hTokens.unique (.nil _)] at hLater
            cases hLater
          have hValue := hPiece.fits.spans.value_eq
          cases hPiece with
          | blanks _ _ _ => cases hTerm
          | connective _ hRun =>
              obtain ⟨operator, hOperator, hSame⟩ :=
                Option.map_eq_some_iff.mp hTerm
              have hSeparator := Operator.kind_of_ofKind? hOperator
              rw [← hSame] at hKind
              exact absurd (hKind.symm.trans hSeparator) (by decide)
          | triple hTriple hToken =>
              obtain ⟨other, hOther, _, hSome⟩ :=
                (hTriple.complete hRest hValue hToken).term
              rw [hTerm, Option.some.injEq] at hOther
              rw [hOther]
              exact hSome

end Lexer

namespace TermList

open Term

theorem matchersOf_ne_nil {terms : List Term} (h : Alternates terms) :
    matchersOf terms ≠ [] := by
  cases h with
  | single hMatcher =>
      rw [matchersOf_matcher ((isMatcher_iff _).mp hMatcher)]
      exact List.cons_ne_nil _ _
  | join hMatcher _ _ =>
      rw [matchersOf_matcher ((isMatcher_iff _).mp hMatcher)]
      exact List.cons_ne_nil _ _

/-- Terms in turn are terms of a phrase when each was read from one and only the
last matcher may be without a value. -/
theorem written_of_matchers {terms : List Term} (h : Alternates terms) :
    (∀ term ∈ terms, term.Plain) →
      (∀ term ∈ matchersOf terms, term.Phrased) →
      (matchersOf terms).Pairwise (fun term _ => term.value.isSome = true) →
      Written terms := by
  induction h with
  | @single term hMatcher =>
      intro _ hPhrased _
      have hKind := (isMatcher_iff term).mp hMatcher
      rw [matchersOf_matcher hKind, List.forall_mem_cons] at hPhrased
      obtain ⟨column, hColumn, hWord⟩ := hPhrased.1.wordColumn hKind
      have hTerm : term =
          ⟨term.id, some column, term.operator, term.value⟩ := by
        rw [← hColumn]
      rw [hTerm]
      exact .last hKind hWord
  | @join term separator rest hMatcher hSeparator hRest ih =>
      intro hPlain hPhrased hValues
      have hKind := (isMatcher_iff term).mp hMatcher
      have hJoin := (isSeparator_iff separator).mp hSeparator
      rw [matchersOf_matcher hKind, matchersOf_separator hJoin] at hPhrased
      rw [matchersOf_matcher hKind, matchersOf_separator hJoin,
        List.pairwise_cons] at hValues
      rw [List.forall_mem_cons] at hPhrased
      have hOthers : Written rest :=
        ih (fun other hOther => hPlain other (by simp [hOther])) hPhrased.2
          hValues.2
      -- A matcher comes later, so this one has a value.
      obtain ⟨later, hMem⟩ :=
        List.exists_mem_of_ne_nil _ (matchersOf_ne_nil hRest)
      obtain ⟨value, hValue⟩ :=
        Option.isSome_iff_exists.mp (hValues.1 later hMem)
      obtain ⟨column, hColumn, hWord⟩ := hPhrased.1.wordColumn hKind
      obtain ⟨hNoColumn, hNoValue⟩ := (hPlain separator (by simp)).bare hJoin
      have hTerm : term =
          ⟨term.id, some column, term.operator, some value⟩ := by
        rw [← hColumn, ← hValue]
        rfl
      have hConnective : separator =
          ⟨separator.id, none, separator.operator, none⟩ :=
        calc separator = ⟨separator.id, separator.column, separator.operator,
              separator.value⟩ := rfl
          _ = _ := by rw [hNoColumn, hNoValue]
      rw [hTerm, hConnective]
      exact .join hKind hWord hJoin hOthers

/-- **A list that was read** has the terms of a phrase, if it has any. -/
theorem written_ofPhrase (text : Text) :
    (ofPhrase text).kind = .filter ∧
      ((ofPhrase text).terms = [] ∨ Written (ofPhrase text).terms) := by
  obtain ⟨hPhrased, hValues⟩ := (Lexer.cut_tokens text).terms
  have hReached : Reached BareSeparators (ofPhrase text) :=
    .edit (.phrase text) (.empty .filter) trivial
  obtain ⟨hFilter, hMatchers⟩ :=
    matchersOf_insertAll fun term hTerm => (hPhrased term hTerm).plain
  have hKind : (ofPhrase text).kind = .filter := hFilter
  refine ⟨hKind, ?_⟩
  have hShaped := hReached.wellFormed.shaped
  rw [hKind] at hShaped
  refine hShaped.imp_right fun hAlternates => ?_
  have hRead : matchersOf (ofPhrase text).terms =
      matchersOf (Term.ofPhrase text) := hMatchers
  have hUnnamed : withoutIds (Term.ofPhrase text) = Term.ofPhrase text :=
    withoutIds_of_phrased hPhrased
  refine written_of_matchers hAlternates hReached.plain ?_ ?_
  · intro term hTerm
    rw [hRead, matchersOf, hUnnamed] at hTerm
    exact hPhrased term (List.mem_filter.mp hTerm).1
  · rw [hRead, matchersOf, hUnnamed]
    refine (hValues.filter isMatcher).imp_of_mem ?_
    intro term later hTerm _ hValue
    exact hValue ((isMatcher_iff term).mp (List.mem_filter.mp hTerm).2)

end TermList

namespace Lexer

open MatcherTriple Term

variable {before rest column value : Text} {operator : Operator}
  {tokens : List Token}

/-- Where a matcher phrase begins, a triple begins that has the same opening. -/
private theorem IsTriple.exists_begun {run rest' written : Text}
    (h : IsTriple run rest') (hColumn : WordColumn column)
    (hOperator : operator.kind = .matcher) (hWritten : written ≠ [])
    (hText : run ++ rest' = opening column operator ++ written) :
    ∃ begun, run = opening column operator ++ begun ∧ begun ≠ [] ∧
      begun ++ rest' = written := by
  rcases h.whole with hEnd | ⟨hStage, _⟩
  · rw [hEnd, List.append_nil] at hText
    exact ⟨written, hText, hWritten, by rw [hEnd, List.append_nil]⟩
  · exact Lexer.exists_begun hColumn.solid hOperator hStage hText

/-- The first piece of a matcher phrase is a triple. -/
private theorem Cut.head_triple (hColumn : WordColumn column)
    {written : Text}
    (hCut : Cut before (opening column operator ++ written) tokens) :
    ∃ run rest' token others, IsTriple run rest' ∧
      Token.composite .matcher (split run before.length) = some token ∧
      run ++ rest' = opening column operator ++ written ∧
      tokens = token :: others := by
  have hFirst : (opening column operator ++ written).startsBlank = false := by
    rw [opening, List.append_assoc,
      Text.startsBlank_append_of_ne_nil hColumn.ne_nil]
    exact Text.startsBlank_of_word hColumn.solid
  generalize hText : opening column operator ++ written = text at hCut hFirst
  cases hCut with
  | nil => simp [opening] at hText
  | @cons _ run rest' token others hPiece _ =>
      cases hPiece with
      | blanks hRun hBlank _ =>
          rw [Text.startsBlank_append_of_ne_nil hRun,
            Text.startsBlank_of_blanks hRun hBlank] at hFirst
          cases hFirst
      | connective _ hRun =>
          have hSplit : run ++ rest' = column ++
              (' ' :: (operator.keyword ++ [' '] ++ written)) := by
            rw [← hText]
            simp [opening]
          obtain ⟨hSame, _⟩ := Text.word_unique
            (Keyword.solid_of_isSeparator hRun.1) hRun.2 hColumn.solid
            (Text.endsWord_cons.mpr (by decide)) hSplit
          have hWord := hRun.1
          rw [hSame, hColumn.not_separator] at hWord
          cases hWord
      | triple hTriple hToken =>
          exact ⟨run, rest', token, others, hTriple, hToken, rfl, rfl⟩

/-- A triple that something follows has no blank at the end of its value. -/
private theorem IsTriple.begun_ends {run rest' begun : Text}
    (h : IsTriple run rest') (hColumn : WordColumn column)
    (hRun : run = opening column operator ++ begun) (hBegun : begun ≠ [])
    (hStarts : begun.startsBlank = false) (hRest : rest' ≠ []) :
    Text.EndsSolid begun := by
  obtain ⟨kept, tail, hCut, hKept, hTail⟩ := Text.cut_tail begun
  have hSome : kept ≠ [] := by
    rintro rfl
    rw [hCut, List.nil_append] at hBegun hStarts
    rw [Text.startsBlank_of_blanks hBegun hTail] at hStarts
    cases hStarts
  rw [hCut, Text.startsBlank_append_of_ne_nil hSome] at hStarts
  have hParts := parts_opening hColumn.solid operator hSome hStarts hKept hTail
  rw [← hCut, ← hRun] at hParts
  rw [hCut, h.tail_eq_nil hRest hParts, List.append_nil]
  exact hKept

/-- A written value that is cut in another place is read as another value. -/
private theorem phraseText_ne_of_split {rest' begun : Text}
    (hSplit : begun ++ rest' = valuePhrase value ++ rest) (hBegun : begun ≠ [])
    (hOther : begun ≠ valuePhrase value)
    (hBehind : rest' = [] ∨ rest'.startsBlank = true) :
    phraseText begun ≠ value := by
  rcases List.append_eq_append_iff.mp hSplit with
    ⟨more, hShort, hRest⟩ | ⟨more, hLong, _⟩
  · have hMore : more ≠ [] := by
      rintro rfl
      exact hOther ((List.append_nil begun).symm.trans hShort.symm)
    have hBlank := hBehind.resolve_left (by simp [hRest, hMore])
    rw [hRest, Text.startsBlank_append_of_ne_nil hMore] at hBlank
    exact phraseText_shorter hShort.symm hBegun hBlank
  · have hMore : more ≠ [] := by
      rintro rfl
      exact hOther (hLong.trans (List.append_nil _))
    rw [hLong]
    exact phraseText_longer value hMore

/-- **A matcher phrase that is no piece** is read as a matcher with another
value. -/
theorem Cut.exists_other_value (hColumn : WordColumn column)
    (hOperator : operator.kind = .matcher)
    (hEnds : Text.EndsSolid (valuePhrase value ++ rest))
    (hBroken : ¬ IsTriple (opening column operator ++ valuePhrase value) rest)
    (hCut : Cut before (opening column operator ++ (valuePhrase value ++ rest))
      tokens) :
    ∃ token others read, tokens = token :: others ∧ read ≠ value ∧
      ofToken token = some ⟨none, some column, operator, some read⟩ := by
  obtain ⟨first, letters, _, _, hFirst, hSolid, _⟩ := valuePhrase_ends value
  have hWritten : valuePhrase value ++ rest ≠ [] := by simp [hFirst]
  obtain ⟨run, rest', token, others, hTriple, hToken, hText, hTokens⟩ :=
    hCut.head_triple hColumn
  obtain ⟨begun, hRun, hBegun, hSplit⟩ :=
    hTriple.exists_begun hColumn hOperator hWritten hText
  have hStarts : begun.startsBlank = false := by
    rw [← Text.startsBlank_append_of_ne_nil hBegun rest', hSplit, hFirst]
    exact hSolid
  have hBegunEnds : Text.EndsSolid begun := by
    by_cases hRest : rest' = []
    · rw [hRest, List.append_nil] at hSplit
      rw [hSplit]
      exact hEnds
    · exact hTriple.begun_ends hColumn hRun hBegun hStarts hRest
  have hParts := parts_opening hColumn.solid operator hBegun hStarts hBegunEnds
    (List.forall_mem_nil _)
  rw [List.append_nil, ← hRun] at hParts
  have hKind : Operator.ofKind? .matcher operator.keyword = some operator := by
    rw [← hOperator]
    exact operator.ofKind?_keyword
  have hTerm := ofToken_of_parts hParts hColumn.ne_nil hToken
  rw [hKind, Option.map_some, if_neg hBegun] at hTerm
  have hOther : begun ≠ valuePhrase value := by
    intro hSame
    have hRest : rest' = rest := by
      rw [hSame] at hSplit
      exact List.append_cancel_left hSplit
    rw [hRun, hSame, hRest] at hTriple
    exact hBroken hTriple
  refine ⟨token, others, phraseText begun, hTokens, ?_, hTerm⟩
  exact phraseText_ne_of_split hSplit hBegun hOther
    (hTriple.whole.imp_right fun hLater => hLater.2.2.startsBlank)

end Lexer

namespace Term

theorem allReadBack_nil : AllReadBack [] := by
  intro front term after hTerms
  simp at hTerms

theorem AllReadBack.cons {term : Term} {rest : List Term}
    (h : term.ReadsBack rest) (hRest : AllReadBack rest) :
    AllReadBack (term :: rest) := by
  intro front other after hTerms
  cases front with
  | nil =>
      obtain ⟨hTerm, hAfter⟩ := List.cons.inj hTerms
      rw [← hTerm, ← hAfter]
      exact h
  | cons first front => exact hRest front other after (List.cons.inj hTerms).2

/-- A phrase ends in an operator or in a value, and not in a blank. -/
theorem Written.endsSolid {terms : List Term} (h : Written terms) :
    Text.EndsSolid (phraseOf terms) := by
  induction h with
  | @last id column operator value hOperator _ =>
      rw [phraseOf_singleton]
      cases value with
      | none =>
          rw [phrase_unvalued hOperator, ← List.singleton_append,
            ← List.append_assoc, Text.endsSolid_append operator.keyword_ne_nil]
          exact Text.endsSolid_of_word
            fun c hMem => (operator.solid_keyword c hMem).1
      | some value =>
          obtain ⟨_, _, before, last, _, _, hLast, hSolid⟩ :=
            valuePhrase_ends value
          rw [phrase_matcher hOperator, hLast, ← List.append_assoc]
          exact Text.endsSolid_concat _ hSolid
  | @join id id' column value operator separator rest hOperator hColumn
      hSeparator hRest ih =>
      obtain ⟨first, more, hFirst, hPhrase⟩ := hRest.exists_column
      have hSome : phraseOf rest ≠ [] := by simp [hPhrase, hFirst.ne_nil]
      have hSplit : phraseOf (⟨id, some column, operator, some value⟩ ::
          ⟨id', none, separator, none⟩ :: rest) =
          (phrase ⟨id, some column, operator, some value⟩ ++ ' ' ::
            (phrase ⟨id', none, separator, none⟩ ++ [' '])) ++
              phraseOf rest := by
        rw [phraseOf_join hRest.ne_nil]
        simp
      rw [hSplit, Text.endsSolid_append hSome]
      exact ih

/-- If the first matcher that is read is the one that was written, its phrase is
one piece. -/
private theorem isTriple_of_matchers {id : Option TermId}
    {before rest column value : Text} {operator : Operator}
    {tokens : List Token} {others : List Term} (hColumn : WordColumn column)
    (hOperator : operator.kind = .matcher)
    (hEnds : Text.EndsSolid
      (opening column operator ++ valuePhrase value ++ rest))
    (hCut : Lexer.Cut before
      (opening column operator ++ valuePhrase value ++ rest) tokens)
    (hMatchers : TermList.matchersOf (tokens.filterMap ofToken) =
      TermList.matchersOf (⟨id, some column, operator, some value⟩ :: others)) :
    Lexer.IsTriple (opening column operator ++ valuePhrase value) rest := by
  have hKind : ∀ (id : Option TermId) (text : Text),
      (⟨id, some column, operator, some text⟩ : Term).kind = .matcher :=
    fun _ _ => hOperator
  by_contra hBroken
  obtain ⟨first, letters, _, _, hFirst, _⟩ := valuePhrase_ends value
  have hSome : valuePhrase value ++ rest ≠ [] := by simp [hFirst]
  rw [List.append_assoc] at hCut hEnds
  rw [Text.endsSolid_append hSome] at hEnds
  obtain ⟨token, later, read, hTokens, hOther, hToken⟩ :=
    hCut.exists_other_value hColumn hOperator hEnds hBroken
  rw [hTokens, List.filterMap_cons_some hToken,
    TermList.matchersOf_matcher (hKind none read),
    TermList.matchersOf_matcher (hKind id value)] at hMatchers
  have hValue := congrArg Term.value (List.cons.inj hMatchers).1
  exact hOther (Option.some.inj hValue)

/-- **Terms that are read again were read as they were written.** -/
theorem Written.allReadBack_of_cut {terms : List Term} (h : Written terms) :
    ∀ (before : Text) (tokens : List Token),
      Lexer.Cut before (phraseOf terms) tokens →
      TermList.matchersOf (tokens.filterMap ofToken) =
        TermList.matchersOf terms →
      AllReadBack terms := by
  induction h with
  | @last id column operator value hOperator hColumn =>
      intro before tokens hCut hMatchers
      refine .cons ?_ allReadBack_nil
      intro other hOther
      cases Option.some.inj hOther
      cases value with
      | none => exact Or.inr ⟨rfl, fun _ hValue => by cases hValue⟩
      | some value =>
          have hEnds : Text.EndsSolid
              (phraseOf [⟨id, some column, operator, some value⟩]) :=
            (Written.last hOperator hColumn).endsSolid
          rw [phraseOf_singleton, phrase_matcher hOperator,
            ← List.append_nil (opening column operator ++ _)] at hCut hEnds
          have hTriple :=
            isTriple_of_matchers hColumn hOperator hEnds hCut hMatchers
          have hInside :=
            ((Lexer.isTriple_phrase_iff hColumn hOperator value _).mp hTriple).2
          refine hInside.imp_right fun hHolds => ⟨rfl, ?_⟩
          intro read hRead
          cases Option.some.inj hRead
          exact hHolds
  | @join id id' column value operator separator rest hOperator hColumn
      hSeparator hRest ih =>
      intro before tokens hCut hMatchers
      have hEnds : Text.EndsSolid
          (phraseOf (⟨id, some column, operator, some value⟩ ::
            ⟨id', none, separator, none⟩ :: rest)) :=
        (Written.join hOperator hColumn hSeparator hRest).endsSolid
      rw [phraseOf_join hRest.ne_nil, phrase_matcher hOperator,
        phrase_separator hSeparator] at hCut hEnds
      have hTriple :=
        isTriple_of_matchers hColumn hOperator hEnds hCut hMatchers
      have hClosed : column.Closed := by
        have hRest' := ((Lexer.isTriple_phrase_iff hColumn hOperator value
          _).mp hTriple).1
        exact (hRest'.resolve_left (List.cons_ne_nil _ _)).1
      obtain ⟨seen, front, hSeen, hFront, hSplit⟩ := Lexer.cut_joined hColumn
        hOperator hSeparator hClosed hRest.startsBlank before value
      obtain ⟨others, hTokens, hOthers⟩ := (hSplit tokens).mp hCut
      refine .cons ?_ (.cons ?_ (ih seen others hOthers ?_))
      · intro other hOther
        cases Option.some.inj hOther
        exact Or.inl hClosed
      · intro other hOther
        cases hOther
      · rw [hTokens, List.filterMap_append, hFront,
          TermList.matchersOf_append] at hMatchers
        have hKind : ∀ id : Option TermId,
            (⟨id, some column, operator, some value⟩ : Term).kind = .matcher :=
          fun _ => hOperator
        have hJoin : (ofSeparator separator).kind = .separator ∧
            (⟨id', none, separator, none⟩ : Term).kind = .separator :=
          ⟨hSeparator, hSeparator⟩
        rw [TermList.matchersOf_matcher (hKind none),
          TermList.matchersOf_matcher (hKind id),
          TermList.matchersOf_separator hJoin.1,
          TermList.matchersOf_separator hJoin.2] at hMatchers
        exact (List.cons.inj hMatchers).2

end Term

namespace TermList

open Term

/-- **A list that was read and written is read as the same list** exactly when
every term is read as it was written: each column has its quotes closed, or it
is that of the last matcher, and no connective stands between blanks in its
value. -/
theorem reread_iff (text : Text) :
    withoutIds (ofPhrase (ofPhrase text).phrase).terms =
        withoutIds (ofPhrase text).terms ↔
      AllReadBack (ofPhrase text).terms := by
  obtain ⟨hKind, hTerms⟩ := written_ofPhrase text
  have hPhrase : (ofPhrase text).phrase = phraseOf (ofPhrase text).terms := by
    rw [phrase, hKind]
    rfl
  have hReached : Reached BareSeparators (ofPhrase text) :=
    .edit (.phrase text) (.empty .filter) trivial
  have hShaped := hReached.wellFormed.shaped
  rw [hKind] at hShaped
  rcases hTerms with hNil | hWritten
  · rw [hPhrase, hNil]
    exact iff_of_true rfl allReadBack_nil
  · rw [hPhrase]
    constructor
    · intro hSame
      have hCut := Lexer.cut_tokens (phraseOf (ofPhrase text).terms)
      refine hWritten.allReadBack_of_cut [] _ hCut ?_
      have hBuilt := (matchersOf_insertAll
        fun term hTerm => (hCut.terms.1 term hTerm).plain).2
      have hMatchers := congrArg (List.filter isMatcher) hSame
      exact hBuilt.symm.trans hMatchers
    · intro hReads
      obtain ⟨tokens, hCut, hRead⟩ := hWritten.exists_cut hReads [] (Or.inl rfl)
      have hTerms : Term.ofPhrase (phraseOf (ofPhrase text).terms) =
          withoutIds (ofPhrase text).terms := by
        rw [Term.ofPhrase, ofTokens, Lexer.tokens_eq_of_cut hCut, hRead,
          withoutIds]
      have hInTurn : Alternates (withoutIds (ofPhrase text).terms) :=
        alternates_withoutIds (hShaped.resolve_left hWritten.ne_nil)
      have hPlain : ∀ term ∈ withoutIds (ofPhrase text).terms, term.Plain := by
        intro term hTerm
        obtain ⟨kept, hKept, hSame⟩ := List.mem_map.mp hTerm
        rw [← hSame]
        exact (hReached.plain kept hKept).withoutId
      have hBuilt := withoutIds_insertAll_filter (Or.inr hInTurn) hPlain
      rw [ofPhrase, hTerms, hBuilt, withoutIds, withoutIds, List.map_map]
      rfl

/-- The quote in the column is closed by the one in front of the value, and the
value is over at its connective. -/
theorem reread_ne_of_open_column :
    let list := ofPhrase "a\"b = c and d"
    withoutIds list.terms = [⟨none, some "a\"b", .equal, some "c and d"⟩] ∧
      list.phrase = "a\"b = \"c and d\"" ∧
      withoutIds (ofPhrase list.phrase).terms =
        [⟨none, some "a\"b", .equal, some "c"⟩] ∧
      withoutIds (ofPhrase list.phrase).terms ≠ withoutIds list.terms := by
  decide +kernel

end TermList

end QueryPhrase
