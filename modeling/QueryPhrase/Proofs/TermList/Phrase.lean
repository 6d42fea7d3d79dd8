import QueryPhrase.Proofs.Lexer.Phrase
import QueryPhrase.Proofs.TermList.Rebuild

/-!
# Lists as phrases and back

A filter list is written as its terms with spaces between them. The lexer cuts
the phrase at those spaces that stand between two terms, each token gives back
the term it was written from, and the terms come in order, so the list that is
read has the same terms. Values may be anything: whatever would end a value
early is quoted.

Columns are another matter, because they are written as they are. Terms that
were read from a phrase may have a column that leaves a quote open, and the
phrase of such terms is cut where it was joined only if each is read as it was
written.

## Main definitions

* `Term.Written` — terms in turn as a phrase has them.
* `Term.ReadsBack`, `Term.AllReadBack` — what is asked of a term, and of all.

## Main results

* `Term.Written.exists_cut` — the cut of the phrase of such terms.
* `Term.ofPhrase_phraseOf` — the terms of the phrase of terms that alternate.
* `TermList.ofPhrase_phrase` — reading the phrase of a filter list gives its
  terms.
-/

namespace QueryPhrase

namespace Term

/-- What a phrase can hold, a list keeps. -/
theorem Legible.plain {term : Term} (h : term.Legible) : term.Plain := by
  cases h with
  | matcher hOperator hColumn =>
      refine ⟨?_, ?_⟩
      · intro hEmpty
        exact hColumn.ne_nil (Option.some.inj hEmpty)
      · intro hKind
        rw [kind, hOperator] at hKind
        cases hKind
  | separator _ => exact ⟨by simp, fun _ => ⟨rfl, rfl⟩⟩

/-- The phrase of some terms. -/
def phraseOf (terms : List Term) : Text := Text.joined " " (terms.map phrase)

theorem phraseOf_join {term separator : Term} {rest : List Term}
    (hRest : rest ≠ []) :
    phraseOf (term :: separator :: rest) =
      term.phrase ++ ' ' :: (separator.phrase ++ ' ' :: phraseOf rest) := by
  obtain ⟨next, others, hCons⟩ := List.exists_cons_of_ne_nil hRest
  simp [phraseOf, Text.joined, List.intercalate, hCons]

@[simp] theorem phraseOf_singleton (term : Term) :
    phraseOf [term] = term.phrase := by
  simp [phraseOf, Text.joined, List.intercalate]

/-! ## Terms of a phrase -/

/-- Terms in turn, as a phrase has them: each matcher is on a column that a
matcher phrase may begin with, only the last one may be without a value, and the
separators are bare. -/
inductive Written : List Term → Prop
  | last {id : Option TermId} {column : Text} {operator : Operator}
    {value : Option Text} : operator.kind = .matcher → WordColumn column →
      Written [⟨id, some column, operator, value⟩]
  | join {id id' : Option TermId} {column value : Text}
    {operator separator : Operator} {rest : List Term} :
    operator.kind = .matcher → WordColumn column →
      separator.kind = .separator → Written rest →
        Written (⟨id, some column, operator, some value⟩ ::
          ⟨id', none, separator, none⟩ :: rest)

/-- Before the given terms a matcher is read as it was written: its column has
its quotes closed, or it is the last term and no connective stands between
blanks in its value. -/
def ReadsBack (term : Term) (after : List Term) : Prop :=
  ∀ column, term.column = some column →
    column.Closed ∨ (after = [] ∧
      ∀ value, term.value = some value → ¬ HoldsConnective value)

/-- Every term is read as it was written. -/
def AllReadBack (terms : List Term) : Prop :=
  ∀ front term after, terms = front ++ term :: after → term.ReadsBack after

theorem AllReadBack.head {term : Term} {rest : List Term}
    (h : AllReadBack (term :: rest)) : term.ReadsBack rest :=
  h [] term rest rfl

theorem AllReadBack.tail {term : Term} {rest : List Term}
    (h : AllReadBack (term :: rest)) : AllReadBack rest := by
  intro front other after hRest
  exact h (term :: front) other after (by rw [hRest]; rfl)

/-- Terms that a phrase can hold are terms of a phrase. -/
theorem written_of_legible {terms : List Term} (h : Alternates terms) :
    (∀ term ∈ terms, term.Legible) → Written terms := by
  induction h with
  | @single term hMatcher =>
      intro hLegible
      have hKind := (isMatcher_iff term).mp hMatcher
      cases hLegible term (by simp) with
      | matcher hOperator hColumn => exact .last hOperator hColumn.word
      | separator hOperator =>
          rw [kind, hOperator] at hKind
          cases hKind
  | @join term separator rest hMatcher hSeparator _ ih =>
      intro hLegible
      have hKind := (isMatcher_iff term).mp hMatcher
      have hJoin := (isSeparator_iff separator).mp hSeparator
      have hRest := ih fun other hOther => hLegible other (by simp [hOther])
      cases hLegible term (by simp) with
      | separator hOperator =>
          rw [kind, hOperator] at hKind
          cases hKind
      | matcher hOperator hColumn =>
          cases hLegible separator (by simp) with
          | matcher hOther _ =>
              rw [kind, hOther] at hJoin
              cases hJoin
          | separator hOther => exact .join hOperator hColumn.word hOther hRest

theorem allReadBack_of_legible {terms : List Term}
    (hLegible : ∀ term ∈ terms, term.Legible) : AllReadBack terms := by
  intro front term after hTerms column hColumn
  left
  cases hLegible term (by simp [hTerms]) with
  | matcher _ hPlain =>
      rw [← Option.some.inj hColumn]
      exact hPlain.closed
  | separator _ => cases hColumn

theorem Written.ne_nil {terms : List Term} (h : Written terms) :
    terms ≠ [] := by
  cases h <;> simp

/-- The phrase of terms begins with a column. -/
theorem Written.exists_column {terms : List Term} (h : Written terms) :
    ∃ column more, WordColumn column ∧ phraseOf terms = column ++ more := by
  cases h with
  | @last id column operator value hOperator hColumn =>
      rw [phraseOf_singleton]
      cases value with
      | none => exact ⟨column, _, hColumn, phrase_unvalued hOperator⟩
      | some value =>
          rw [phrase_matcher hOperator, opening, List.append_assoc]
          exact ⟨column, _, hColumn, rfl⟩
  | @join id id' column value operator separator rest hOperator hColumn _
      hRest =>
      rw [phraseOf_join hRest.ne_nil, phrase_matcher hOperator, opening,
        List.append_assoc, List.append_assoc]
      exact ⟨column, _, hColumn, rfl⟩

theorem Written.startsBlank {terms : List Term} (h : Written terms) :
    (phraseOf terms).startsBlank = false := by
  obtain ⟨column, more, hColumn, hPhrase⟩ := h.exists_column
  rw [hPhrase, Text.startsBlank_append_of_ne_nil hColumn.ne_nil]
  exact Text.startsBlank_of_word hColumn.solid

/-- **The cut of a phrase** has the terms it was written from, wherever in a text
it stands. One step of the induction is a matcher, a space, a connective and a
space. -/
theorem Written.exists_cut {terms : List Term} (h : Written terms) :
    AllReadBack terms → ∀ before : Text, Text.StartsWord before →
      ∃ tokens, Lexer.Cut before (phraseOf terms) tokens ∧
        tokens.filterMap ofToken = terms.map withoutId := by
  induction h with
  | @last id column operator value hOperator hColumn =>
      intro hReads before _
      have hLast : ∃ token, Lexer.Piece before
            (phrase ⟨id, some column, operator, value⟩) [] token ∧
          ofToken token = some ⟨none, some column, operator, value⟩ := by
        cases value with
        | none =>
            rw [phrase_unvalued hOperator]
            exact Lexer.piece_opening hColumn hOperator before
        | some value =>
            have hInside : column.Closed ∨ ¬ HoldsConnective value :=
              (hReads.head column rfl).imp_right fun h => h.2 value rfl
            have hTriple := (Lexer.isTriple_phrase_iff hColumn hOperator value
              []).mpr ⟨Or.inl rfl, hInside⟩
            rw [phrase_matcher hOperator]
            exact Lexer.piece_matcher hColumn hOperator before hTriple
      obtain ⟨token, hPiece, hToken⟩ := hLast
      have hCut := Lexer.Cut.cons hPiece (.nil _)
      rw [List.append_nil] at hCut
      refine ⟨[token], by rw [phraseOf_singleton]; exact hCut, ?_⟩
      simp [hToken, withoutId]
  | @join id id' column value operator separator rest hOperator hColumn
      hSeparator hRest ih =>
      intro hReads before _
      have hClosed : column.Closed :=
        (hReads.head column rfl).resolve_right (by simp)
      obtain ⟨seen, front, hSeen, hFront, hCut⟩ := Lexer.cut_joined hColumn
        hOperator hSeparator hClosed hRest.startsBlank before value
      obtain ⟨tokens, hTokens, hOthers⟩ := ih hReads.tail.tail seen hSeen
      refine ⟨front ++ tokens, ?_, ?_⟩
      · rw [phraseOf_join hRest.ne_nil, phrase_matcher hOperator,
          phrase_separator hSeparator, hCut]
        exact ⟨tokens, rfl, hTokens⟩
      · rw [List.filterMap_append, hFront, hOthers]
        rfl

/-- The terms of the phrase of terms that alternate. -/
theorem ofPhrase_phraseOf {terms : List Term}
    (hTerms : terms = [] ∨ Alternates terms)
    (hLegible : ∀ term ∈ terms, term.Legible) :
    ofPhrase (phraseOf terms) = withoutIds terms := by
  rcases hTerms with hNil | hAlternates
  · subst hNil
    rfl
  · obtain ⟨tokens, hCut, hRead⟩ :=
      (written_of_legible hAlternates hLegible).exists_cut
        (allReadBack_of_legible hLegible) [] (Or.inl rfl)
    rw [ofPhrase, ofTokens, Lexer.tokens_eq_of_cut hCut, hRead, withoutIds]

end Term

namespace TermList

open Term

theorem alternates_withoutIds {terms : List Term} (h : Alternates terms) :
    Alternates (withoutIds terms) := by
  rw [alternates_iff_turns] at h ⊢
  exact turns_congr (by simp [withoutIds, withoutId, Term.kind]) h

/-- **Reading the phrase of a filter list gives its terms**, identifiers aside.
The values may be any texts: empty or blank ones, ones with quotes and
backslashes in them, and the connectives themselves. -/
theorem ofPhrase_phrase {list : TermList} (hKind : list.kind = .filter)
    (hTerms : list.terms = [] ∨ Alternates list.terms)
    (hLegible : ∀ term ∈ list.terms, term.Legible) :
    withoutIds (ofPhrase list.phrase).terms = withoutIds list.terms := by
  have hPhrase : list.phrase = phraseOf list.terms := by
    rw [phrase, hKind]
    rfl
  have hRead :
      withoutIds list.terms = [] ∨ Alternates (withoutIds list.terms) := by
    rcases hTerms with hNil | hAlternates
    · exact Or.inl (by rw [hNil]; rfl)
    · exact Or.inr (alternates_withoutIds hAlternates)
  have hPlain : ∀ term ∈ withoutIds list.terms, term.Plain := by
    intro term hMem
    obtain ⟨written, hWritten, hSame⟩ := List.mem_map.mp hMem
    have hKept := (hLegible written hWritten).plain
    rw [← hSame]
    exact ⟨hKept.column_ne, hKept.bare⟩
  have hBuilt := withoutIds_insertAll_filter hRead hPlain
  rw [ofPhrase, hPhrase, ofPhrase_phraseOf hTerms hLegible, hBuilt, withoutIds,
    withoutIds, List.map_map]
  rfl

private theorem plainColumn_name : PlainColumn "name" := by
  have hSolid : ("name" : Text).all (fun c => !isBlank c) = true := by decide
  refine ⟨by decide, ?_, by decide, by decide⟩
  intro c hMem
  simpa using List.all_eq_true.mp hSolid c hMem

theorem ofPhrase_phrase_of_quoted :
    let list : TermList := { empty .filter with terms := [
      ⟨some 1, some "name", .like, some "red \\ and \"blue\" \\"⟩,
      ⟨some 2, none, .or, none⟩,
      ⟨some 3, some "name", .equal, some ""⟩] }
    (∀ term ∈ list.terms, term.Legible) ∧
      withoutIds (ofPhrase list.phrase).terms = withoutIds list.terms := by
  intro list
  have hLegible : ∀ term ∈ list.terms, term.Legible := by
    intro term hMem
    simp only [list, List.mem_cons, List.not_mem_nil, or_false] at hMem
    rcases hMem with hFirst | hSecond | hThird
    · rw [hFirst]
      exact .matcher rfl plainColumn_name
    · rw [hSecond]
      exact .separator rfl
    · rw [hThird]
      exact .matcher rfl plainColumn_name
  exact ⟨hLegible, ofPhrase_phrase rfl
    (Or.inr (.join rfl rfl (.single rfl))) hLegible⟩

end TermList

end QueryPhrase
