import QueryPhrase.Proofs.Lexer.Cut
import QueryPhrase.Proofs.Term.Phrase

/-!
# Reading a written phrase

What a term is written as is one piece of the phrase it stands in, and the token
of that piece gives back the term. Before a matcher phrase is over, the triple
is not whole: a beginning of it that has come to the value is followed by no
blank, or a quoted value is still open.

This rests on the quotes of the column. Only values are quoted when they are
written, but all quotes are followed when they are read. Behind a column that
leaves a quote open, a quoted value is read the other way round: it is closed
inside and open at its end. Such a matcher phrase is one piece only at the very
end, and only if no connective stands between blanks in its value.

## Main definitions

* `WordColumn` — the columns that a matcher phrase may begin with.
* `Term.HoldsConnective` — a connective stands between blanks in a value.

## Main results

* `Lexer.isTriple_phrase_iff` — when the phrase of a matcher is one piece.
* `Lexer.piece_matcher`, `Lexer.piece_opening`, `Lexer.piece_separator`,
  `Lexer.piece_space` — the pieces a phrase is made of.
-/

namespace QueryPhrase

/-- A column that a matcher phrase may begin with: a word, and no connective. -/
structure WordColumn (column : Text) : Prop where
  ne_nil : column ≠ []
  solid : ∀ c ∈ column, isBlank c = false
  not_separator : Keyword.isSeparator column = false

theorem PlainColumn.word {column : Text} (h : PlainColumn column) :
    WordColumn column :=
  ⟨h.ne_nil, h.solid, h.not_separator⟩

/-- No quote is left open at the end. -/
def Text.Closed (text : Text) : Prop := (QuoteState.ofText text).isOpen = false

theorem PlainColumn.closed {column : Text} (h : PlainColumn column) :
    column.Closed :=
  QuoteState.isOpen_foldl_push h.unquoted {}

namespace Term

/-- A connective stands between blanks in the value, with a blank behind it. -/
def HoldsConnective (value : Text) : Prop :=
  ∃ front blanks word others, value = front ++ (blanks ++ (word ++ others)) ∧
    blanks ≠ [] ∧ (∀ c ∈ blanks, isBlank c = true) ∧
      Keyword.isSeparator word = true ∧ others.startsBlank = true

/-- Blanks and connectives are not escaped. -/
private theorem plain_of_connective {blanks word : Text}
    (hBlanks : ∀ c ∈ blanks, isBlank c = true)
    (hWord : Keyword.isSeparator word = true) :
    ∀ c ∈ blanks ++ word, c ≠ '\\' ∧ (c == '"') = false := by
  intro c hMem
  rw [List.mem_append] at hMem
  rcases hMem with hBlank | hLetter
  · exact plain_of_isBlank (hBlanks c hBlank)
  · obtain ⟨hBare, hQuote⟩ := Keyword.unquoted_of_isSeparator hWord c hLetter
    exact ⟨hBare, beq_eq_false_iff_ne.mpr hQuote⟩

/-- Escaping changes nothing of a blank at the front. -/
private theorem startsBlank_escape (text : Text) :
    (escape (· == '"') text).startsBlank = text.startsBlank := by
  cases text with
  | nil => rfl
  | cons c rest =>
      rw [escape_cons]
      split
      · next hEscaped =>
        cases hBlank : isBlank c with
        | false =>
            rw [Text.startsBlank_cons, hBlank]
            rfl
        | true => simp [plain_of_isBlank hBlank] at hEscaped
      · rfl

/-- A value with a connective between blanks is quoted, and what is written has
it too. -/
private theorem HoldsConnective.quoted {value : Text} (h : HoldsConnective value) :
    valuePhrase value = quote value ∧ ∃ front ahead,
      quote value = '"' :: front ++ ahead ∧ ahead ≠ [] ∧
        ∀ rest, Lexer.ConnectiveFirst (ahead ++ rest) := by
  obtain ⟨front, blanks, word, others, hValue, hSome, hBlanks, hWord, hOthers⟩ :=
    h
  have hNeeds : needsQuotes value = true := by
    obtain ⟨c, more, hCons⟩ := List.exists_cons_of_ne_nil hSome
    have hBlank : isBlank c = true := hBlanks c (by simp [hCons])
    have hMem : c ∈ value := by simp [hValue, hCons]
    have hAny : value.any (fun c => isBlank c || c == '"') = true :=
      List.any_eq_true.mpr ⟨c, hMem, by rw [hBlank]; rfl⟩
    rw [needsQuotes, hAny, Bool.or_true]
    rfl
  have hPlain := plain_of_connective hBlanks hWord
  have hEscaped : escape (· == '"') value = escape (· == '"') front ++
      (blanks ++ word ++ escape (· == '"') others) := by
    rw [hValue, ← List.append_assoc blanks, escape_append, escape_append,
      escape_of_plain hPlain]
  refine ⟨by rw [valuePhrase, if_pos hNeeds], escape (· == '"') front,
    blanks ++ (word ++ (escape (· == '"') others ++ ['"'])), ?_, ?_, ?_⟩
  · rw [quote, hEscaped]
    simp
  · simp [hSome]
  · intro rest
    refine ⟨blanks, word, escape (· == '"') others ++ ['"'] ++ rest, by simp,
      hSome, hBlanks, hWord, ?_⟩
    right
    have hFirst : escape (· == '"') others ≠ [] := by
      intro hNil
      have hNone := startsBlank_escape others
      rw [hNil, hOthers] at hNone
      cases hNone
    rw [List.append_assoc, Text.startsBlank_append_of_ne_nil hFirst,
      startsBlank_escape]
    exact hOthers

/-- A connective that comes first in the rest of a quoted value stands between
blanks in the value. -/
private theorem holdsConnective_of_quote {value seen ahead : Text}
    (hSplit : seen ++ ahead = quote value) (hSeen : seen ≠ [])
    (hAhead : Lexer.ConnectiveFirst ahead) : HoldsConnective value := by
  obtain ⟨blanks, word, others, hRest, hSome, hBlanks, hWord, hOthers⟩ := hAhead
  have hUnquoted := Keyword.unquoted_of_isSeparator hWord
  obtain ⟨c, begun, hBegun⟩ := List.exists_cons_of_ne_nil hSeen
  rw [hBegun, hRest, quote, List.cons_append, List.cons.injEq] at hSplit
  obtain ⟨_, hInner⟩ := hSplit
  -- The last quote is behind the connective, and not the blank after it.
  rcases List.eq_nil_or_concat others with hNone | ⟨inner, last, hConcat⟩
  · obtain ⟨letters, letter, hLast⟩ := (List.eq_nil_or_concat word).resolve_left
      (Lexer.ne_nil_of_isSeparator hWord)
    rw [List.concat_eq_append] at hLast
    rw [hNone, hLast, List.append_nil, ← List.append_assoc, ← List.append_assoc,
      List.append_singleton_inj] at hInner
    exact absurd hInner.2 (hUnquoted letter (by simp [hLast])).2
  · rw [List.concat_eq_append] at hConcat
    have hText : begun ++ (blanks ++ (word ++ others)) =
        begun ++ (blanks ++ word ++ inner) ++ [last] := by
      simp [hConcat]
    rw [hText, List.append_singleton_inj] at hInner
    obtain ⟨hEscaped, hQuote⟩ := hInner
    have hPlain := plain_of_connective hBlanks hWord
    obtain ⟨front, after, hValue, _, hAfter⟩ :=
      exists_of_escape_eq (by simp [hSome]) hPlain hEscaped.symm
    refine ⟨front, blanks, word, after, by rw [hValue, List.append_assoc], hSome,
      hBlanks, hWord, ?_⟩
    rw [← startsBlank_escape, hAfter]
    rw [hConcat, Text.EndsWord] at hOthers
    cases inner with
    | nil =>
        rw [hQuote] at hOthers
        exact absurd hOthers (by decide)
    | cons d inner =>
        rcases hOthers with hNil | hBlank
        · simp at hNil
        · exact hBlank

end Term

namespace Lexer

open MatcherTriple Term

variable {before rest column value : Text} {operator : Operator}

/-! ## A matcher -/

/-- Where a matcher phrase begins, no connective is over. -/
private theorem not_isConnective (hColumn : WordColumn column)
    {more seen ahead : Text} (hMore : Text.EndsWord (more ++ rest))
    (hSplit : seen ++ ahead = column ++ more) :
    ¬ IsConnective seen (ahead ++ rest) := by
  rintro ⟨hWord, hEnds⟩
  have hText : seen ++ (ahead ++ rest) = column ++ (more ++ rest) := by
    rw [← List.append_assoc, hSplit, List.append_assoc]
  obtain ⟨hSame, _⟩ := Text.word_unique (Keyword.solid_of_isSeparator hWord)
    hEnds hColumn.solid hMore hText
  rw [hSame, hColumn.not_separator] at hWord
  cases hWord

private theorem ofText_opening (column : Text) (operator : Operator) :
    QuoteState.ofText (opening column operator) =
      ⟨(QuoteState.ofText column).isOpen, false⟩ := by
  have hSplit : opening column operator =
      column ++ ((' ' :: operator.keyword) ++ [' ']) := by
    simp [opening]
  rw [hSplit, QuoteState.ofText_append]
  refine QuoteState.foldl_push_concat ?_ (by decide) _
  intro hMem
  simp only [List.mem_append, List.mem_cons, List.not_mem_nil, or_false] at hMem
  rcases hMem with (hSpace | hIn) | hSpace
  · exact absurd hSpace (by decide)
  · exact (operator.solid_keyword '"' hIn).2.1 rfl
  · exact absurd hSpace (by decide)

/-- A value leaves the quotes as they were. -/
private theorem isOpen_phrase (column : Text) (operator : Operator)
    (value : Text) :
    (QuoteState.ofText
        (opening column operator ++ valuePhrase value)).isOpen =
      (QuoteState.ofText column).isOpen := by
  rw [QuoteState.ofText_append, ofText_opening]
  unfold valuePhrase
  split
  · rw [QuoteState.foldl_push_quote]
  · next hPlain =>
    rw [Bool.not_eq_true] at hPlain
    exact QuoteState.isOpen_foldl_push (plain_of_needsQuotes hPlain).2.2 _

private theorem isMatcherOperator_keyword (hOperator : operator.kind = .matcher) :
    Keyword.isMatcherOperator operator.keyword = true := by
  cases operator with
  | or => cases hOperator
  | and => cases hOperator
  | orderBy => cases hOperator
  | _ => rfl

/-- Behind its opening, a triple waits for its value. -/
private theorem progress_opening (hSolid : ∀ c ∈ column, isBlank c = false)
    (hOperator : operator.kind = .matcher) :
    progress (opening column operator) = (.afterOperator, []) := by
  rw [opening, progress_append, progress_solid hSolid]
  cases operator with
  | or => cases hOperator
  | and => cases hOperator
  | orderBy => cases hOperator
  | _ => rfl

/-- A matcher phrase has come to its value. -/
private theorem stage_phrase (hSolid : ∀ c ∈ column, isBlank c = false)
    (hOperator : operator.kind = .matcher) (value : Text) :
    (progress (opening column operator ++ valuePhrase value)).1 = .value := by
  rw [stage_eq_value_iff (parts_phrase hSolid operator value)]
  obtain ⟨first, others, _, _, hFirst, _⟩ := valuePhrase_ends value
  refine ⟨?_, isMatcherOperator_keyword hOperator⟩
  rw [hFirst]
  exact List.cons_ne_nil first others

/-- Where a matcher phrase has come to its value, some of the value is read. -/
theorem exists_begun (hSolid : ∀ c ∈ column, isBlank c = false)
    (hOperator : operator.kind = .matcher) {written seen ahead : Text}
    (hStage : (progress seen).1 = .value)
    (hSplit : seen ++ ahead = opening column operator ++ written) :
    ∃ begun, seen = opening column operator ++ begun ∧ begun ≠ [] ∧
      begun ++ ahead = written := by
  have hOpening := progress_opening hSolid hOperator
  rcases List.append_eq_append_iff.mp hSplit with
    ⟨more, hMore, _⟩ | ⟨begun, hBegun, hValue⟩
  · have hLater := progress_append_of_value hStage more
    rw [← hMore, hOpening] at hLater
    cases hLater
  · refine ⟨begun, hBegun, ?_, hValue.symm⟩
    intro hNone
    rw [hBegun, hNone, List.append_nil, hOpening] at hStage
    cases hStage

/-- Behind a column with an open quote, the phrase is over before the connective
that stands in its value. -/
private theorem exists_whole_before (hColumn : WordColumn column)
    (hOperator : operator.kind = .matcher) (hOpen : ¬ column.Closed)
    {value : Text} (hHolds : HoldsConnective value) (rest : Text) :
    ∃ seen ahead, seen ≠ [] ∧ ahead ≠ [] ∧
      seen ++ ahead = opening column operator ++ valuePhrase value ∧
      Whole seen (ahead ++ rest) := by
  rw [Text.Closed, Bool.not_eq_false] at hOpen
  obtain ⟨hQuoted, front, ahead, hSplit, hAhead, hFirst⟩ := hHolds.quoted
  refine ⟨opening column operator ++ '"' :: front, ahead, by simp, hAhead,
    by rw [hQuoted, hSplit, List.append_assoc], Or.inr ⟨?_, ?_, hFirst rest⟩⟩
  · exact progress_value (progress_opening hColumn.solid hOperator) (by decide)
  · rw [QuoteState.ofText_append, ofText_opening,
      QuoteState.isOpen_of_append_eq_quote _ hSplit.symm (by simp) hAhead,
      hOpen]
    rfl

/-- A phrase is not over before its end: a plain value has no blank inside, and
a quoted one is open there, or else it is the last and has no connective. -/
private theorem not_whole_before (hColumn : WordColumn column)
    (hOperator : operator.kind = .matcher) {value rest seen ahead : Text}
    (hRest : rest = [] ∨ column.Closed)
    (hInside : column.Closed ∨ ¬ HoldsConnective value) (hAhead : ahead ≠ [])
    (hSplit : seen ++ ahead = opening column operator ++ valuePhrase value) :
    ¬ Whole seen (ahead ++ rest) := by
  rintro (hEnd | ⟨hSeen, hClosed, hFirst⟩)
  · simp [hAhead] at hEnd
  · obtain ⟨begun, hBegun, hNonempty, hWritten⟩ :=
      exists_begun hColumn.solid hOperator hSeen hSplit
    rw [hBegun, QuoteState.ofText_append, ofText_opening] at hClosed
    unfold valuePhrase at hWritten
    split at hWritten
    · rw [QuoteState.isOpen_of_append_eq_quote _ hWritten hNonempty hAhead,
        Bool.not_eq_false'] at hClosed
      have hOpen : ¬ column.Closed := by
        rw [Text.Closed, hClosed]
        decide
      rw [hRest.resolve_right hOpen, List.append_nil] at hFirst
      exact hInside.resolve_left hOpen
        (holdsConnective_of_quote hWritten hNonempty hFirst)
    · next hPlain =>
      rw [Bool.not_eq_true] at hPlain
      have hSolid := (plain_of_needsQuotes hPlain).2.1
      have hStarts : Text.startsBlank (ahead ++ rest) = false := by
        rw [Text.startsBlank_append_of_ne_nil hAhead]
        apply Text.startsBlank_of_word
        intro c hMem
        apply hSolid
        rw [← hWritten]
        exact List.mem_append_right begun hMem
      rw [hFirst.startsBlank] at hStarts
      cases hStarts

/-- **The phrase of a matcher is one piece** where the text is over, or where a
connective comes next and the column has its quotes closed. If they are open, no
connective may stand between blanks in the value. -/
theorem isTriple_phrase_iff (hColumn : WordColumn column)
    (hOperator : operator.kind = .matcher) (value rest : Text) :
    IsTriple (opening column operator ++ valuePhrase value) rest ↔
      (rest = [] ∨ (column.Closed ∧ ConnectiveFirst rest)) ∧
        (column.Closed ∨ ¬ HoldsConnective value) := by
  have hStage := stage_phrase hColumn.solid hOperator value
  have hEndOpen := isOpen_phrase column operator value
  constructor
  · intro hTriple
    constructor
    · rcases hTriple.whole with hEnd | ⟨_, hClosed, hFirst⟩
      · exact Or.inl hEnd
      · right
        rw [hEndOpen] at hClosed
        exact ⟨hClosed, hFirst⟩
    · by_contra hBoth
      rw [not_or, not_not] at hBoth
      obtain ⟨seen, ahead, hSeen, hAhead, hSplit, hWhole⟩ :=
        exists_whole_before hColumn hOperator hBoth.1 hBoth.2 rest
      exact (hTriple.passes seen ahead hSeen hAhead hSplit).not_whole hWhole
  · rintro ⟨hRest, hInside⟩
    have hColumnSplit : opening column operator ++ valuePhrase value =
        column ++ (' ' :: (operator.keyword ++ ' ' :: valuePhrase value)) := by
      simp [opening]
    have hBehind : Text.EndsWord
        (' ' :: (operator.keyword ++ ' ' :: valuePhrase value) ++ rest) :=
      Text.endsWord_cons.mpr (by decide)
    refine ⟨by simp [opening], ?_, ?_, ?_, ?_⟩
    · rw [hColumnSplit, Text.startsBlank_append_of_ne_nil hColumn.ne_nil]
      exact Text.startsBlank_of_word hColumn.solid
    · rcases hRest with hEnd | ⟨hClosed, hFirst⟩
      · exact Or.inl hEnd
      · right
        rw [hEndOpen]
        exact ⟨hStage, hClosed, hFirst⟩
    · exact not_isConnective hColumn hBehind
        ((List.append_nil _).trans hColumnSplit)
    · intro seen ahead _ hAhead hSplit
      refine ⟨?_, not_isConnective hColumn hBehind
        (by rw [hSplit, hColumnSplit])⟩
      exact not_whole_before hColumn hOperator (hRest.imp_right And.left)
        hInside hAhead hSplit

/-- A matcher phrase without its value is one piece where the text is over. -/
theorem isTriple_opening (hColumn : WordColumn column) (operator : Operator) :
    IsTriple (column ++ ' ' :: operator.keyword) [] := by
  have hBehind : Text.EndsWord (' ' :: operator.keyword ++ []) :=
    Text.endsWord_cons.mpr (by decide)
  refine ⟨by simp, ?_, Or.inl rfl,
    not_isConnective hColumn hBehind (List.append_nil _), ?_⟩
  · rw [Text.startsBlank_append_of_ne_nil hColumn.ne_nil]
    exact Text.startsBlank_of_word hColumn.solid
  · intro seen ahead _ hAhead hSplit
    refine ⟨?_, not_isConnective hColumn hBehind hSplit⟩
    rintro (hEnd | ⟨hStage, _⟩)
    · simp [hAhead] at hEnd
    · -- The value, once begun, would be there at the end.
      have hLater := progress_append_of_value hStage ahead
      rw [hSplit, stage_eq_value_iff
        (parts_unvalued hColumn.solid operator)] at hLater
      exact hLater.1 rfl

/-- **The token of a matcher phrase** gives the matcher back. -/
theorem piece_matcher (hColumn : WordColumn column)
    (hOperator : operator.kind = .matcher) (before : Text)
    (hTriple : IsTriple (opening column operator ++ valuePhrase value) rest) :
    ∃ token, Piece before (opening column operator ++ valuePhrase value) rest
        token ∧
      ofToken token = some ⟨none, some column, operator, some value⟩ := by
  obtain ⟨token, hToken⟩ := exists_composite hTriple.ne_nil before.length
  have hTerm := ofToken_of_parts (parts_phrase hColumn.solid operator value)
    hColumn.ne_nil hToken
  have hKind : Operator.ofKind? .matcher operator.keyword = some operator := by
    rw [← hOperator]
    exact operator.ofKind?_keyword
  obtain ⟨first, others, _, _, hFirst, _⟩ := valuePhrase_ends value
  have hValue : valuePhrase value ≠ [] := by
    rw [hFirst]
    exact List.cons_ne_nil first others
  rw [hKind, Option.map_some, if_neg hValue, phraseText_valuePhrase] at hTerm
  exact ⟨token, .triple hTriple hToken, hTerm⟩

theorem piece_opening (hColumn : WordColumn column)
    (hOperator : operator.kind = .matcher) (before : Text) :
    ∃ token, Piece before (column ++ ' ' :: operator.keyword) [] token ∧
      ofToken token = some ⟨none, some column, operator, none⟩ := by
  have hTriple := isTriple_opening hColumn operator
  obtain ⟨token, hToken⟩ := exists_composite hTriple.ne_nil before.length
  have hTerm := ofToken_of_parts (parts_unvalued hColumn.solid operator)
    hColumn.ne_nil hToken
  have hKind : Operator.ofKind? .matcher operator.keyword = some operator := by
    rw [← hOperator]
    exact operator.ofKind?_keyword
  rw [hKind, Option.map_some, if_pos rfl] at hTerm
  exact ⟨token, .triple hTriple hToken, hTerm⟩

/-! ## Connectives and spaces -/

private theorem isSeparator_keyword {separator : Operator}
    (hSeparator : separator.kind = .separator) :
    Keyword.isSeparator separator.keyword = true := by
  cases separator with
  | or => rfl
  | and => rfl
  | _ => cases hSeparator

/-- **A connective between spaces is one token.** -/
theorem piece_separator {separator : Operator}
    (hSeparator : separator.kind = .separator)
    (hBefore : Text.StartsWord before) (more : Text) :
    ∃ token, Piece before separator.keyword (' ' :: more) token ∧
      ofToken token = some (ofSeparator separator) := by
  have hKind := separator.ofKind?_keyword
  rw [hSeparator] at hKind
  refine ⟨_, .connective hBefore
    ⟨isSeparator_keyword hSeparator, Text.endsWord_cons.mpr (by decide)⟩, ?_⟩
  simp [ofToken, Token.leaf, hKind]

/-- **A space between words is one token.** -/
theorem piece_space {more : Text} (before : Text)
    (hSolid : more.startsBlank = false) :
    ∃ token, Piece before [' '] more token ∧ ofToken token = none :=
  ⟨_, .blanks (by simp) (fun _ => Text.isBlank_of_mem_space) hSolid, rfl⟩

/-- A connective between spaces comes first in what follows a matcher. -/
private theorem connectiveFirst_keyword {separator : Operator}
    (hSeparator : separator.kind = .separator) (more : Text) :
    ConnectiveFirst (' ' :: (separator.keyword ++ ' ' :: more)) :=
  ⟨[' '], separator.keyword, ' ' :: more, rfl, by simp,
    fun _ => Text.isBlank_of_mem_space, isSeparator_keyword hSeparator,
    Text.endsWord_cons.mpr (by decide)⟩

/-- **A matcher that is joined to what follows** is cut off with its connective,
as long as its column has its quotes closed. -/
theorem cut_joined {separator : Operator} {more : Text}
    (hColumn : WordColumn column) (hOperator : operator.kind = .matcher)
    (hSeparator : separator.kind = .separator) (hClosed : column.Closed)
    (hMore : more.startsBlank = false) (before value : Text) :
    ∃ (seen : Text) (front : List Token), Text.StartsWord seen ∧
      front.filterMap ofToken =
        [⟨none, some column, operator, some value⟩, ofSeparator separator] ∧
      ∀ tokens, Cut before (opening column operator ++ valuePhrase value ++
          ' ' :: (separator.keyword ++ ' ' :: more)) tokens ↔
        ∃ others, tokens = front ++ others ∧ Cut seen more others := by
  have hTriple := (isTriple_phrase_iff hColumn hOperator value _).mpr
    ⟨Or.inr ⟨hClosed, connectiveFirst_keyword hSeparator more⟩, Or.inl hClosed⟩
  have hWord : (separator.keyword ++ ' ' :: more).startsBlank = false := by
    rw [Text.startsBlank_append_of_ne_nil separator.keyword_ne_nil]
    exact Text.startsBlank_of_word
      fun c hMem => (separator.solid_keyword c hMem).1
  have hSpace : ∀ text : Text, Text.StartsWord (text ++ [' ']) :=
    fun text => Text.startsWord_of_blanks (by simp)
      fun _ => Text.isBlank_of_mem_space
  obtain ⟨token, hMatcher, hTerm⟩ :=
    piece_matcher hColumn hOperator before hTriple
  obtain ⟨space, hBehind, hNone⟩ := piece_space
    (before ++ (opening column operator ++ valuePhrase value)) hWord
  obtain ⟨connective, hConnective, hJoin⟩ :=
    piece_separator hSeparator (hSpace _) more
  obtain ⟨space', hAhead, hNone'⟩ := piece_space _ hMore
  refine ⟨before ++ (opening column operator ++ valuePhrase value) ++ [' '] ++
    separator.keyword ++ [' '], [token, space, connective, space'], hSpace _,
    ?_, ?_⟩
  · simp [hTerm, hNone, hJoin, hNone']
  · intro tokens
    constructor
    · intro hCut
      obtain ⟨fromSpace, hTokens, hCut⟩ := hCut.head hMatcher rfl
      obtain ⟨fromWord, hFromSpace, hCut⟩ := hCut.head hBehind rfl
      obtain ⟨fromSpace', hFromWord, hCut⟩ := hCut.head hConnective rfl
      obtain ⟨others, hOthers, hCut⟩ := hCut.head hAhead rfl
      exact ⟨others, by rw [hTokens, hFromSpace, hFromWord, hOthers]; rfl, hCut⟩
    · rintro ⟨others, hTokens, hOthers⟩
      rw [hTokens]
      exact .cons hMatcher (.cons hBehind (.cons hConnective
        (.cons hAhead hOthers)))

end Lexer

end QueryPhrase
