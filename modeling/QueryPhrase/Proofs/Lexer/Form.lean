import QueryPhrase.Proofs.Lexer.Cut
import QueryPhrase.Proofs.Lexer.Tiling
import QueryPhrase.Proofs.Term.Phrase

/-!
# The form of a matcher phrase

What can be relied on of the tokens of any matcher phrase, however odd the text.
Blanks and words take turns. A triple that something follows is complete: it has
all its parts, its second word is an operator, its quotes are balanced, and what
follows is a connective between blanks. So only the last triple of a phrase can
fail to give a term, or give one without a value.

Everything is read off the cut of the text. A triple that is whole before its
last character would have been over there, so no blank is left at its end, and
no connective is left inside it.

## Main definitions

* `Token.CompleteTriple` — the triples that something follows.
* `Lexer.PhraseForm` — what the tokens of a phrase are like.

## Main results

* `Lexer.phrase_form` — the tokens of every text are like that.
-/

namespace QueryPhrase

/-- A triple with all its parts, which gives a term with a value. -/
structure Token.CompleteTriple (token : Token) : Prop where
  kinds : token.children.map Token.kind =
    [.column, .whitespace, .comparator, .whitespace, .value]
  filled : ∀ part ∈ token.children, part.value ≠ []
  operator : ∃ part, token.child? .comparator = some part ∧
    Keyword.isMatcherOperator part.value = true
  balanced : (QuoteState.ofText token.value).balanced = true
  term : ∃ term, Term.ofToken token = some term ∧
    term.column.isSome = true ∧ term.value.isSome = true

namespace Lexer

open MatcherTriple

/-- What the tokens of a matcher phrase are like. -/
structure PhraseForm (text : Text) (tokens : List Token) : Prop where
  kinds : ∀ token ∈ tokens, token.kind = .whitespace ∨
    token.kind = .separator ∨ token.kind = .matcher
  /-- A triple that is not the last token is complete, and blanks and a
  connective follow it. -/
  triple : ∀ front token back, tokens = front ++ token :: back →
    token.kind = .matcher → back ≠ [] → token.CompleteTriple ∧
      ∃ blanks connective others, back = blanks :: connective :: others ∧
        blanks.kind = .whitespace ∧ connective.kind = .separator
  /-- A connective stands between blanks, the ends of the text apart. -/
  connective : ∀ front token back, tokens = front ++ token :: back →
    token.kind = .separator → Keyword.isSeparator token.value = true ∧
      (∀ last, front.getLast? = some last → last.kind = .whitespace) ∧
      ∀ next, back.head? = some next → next.kind = .whitespace
  /-- Behind the first character of the value of a triple with an operator, and
  before its end, no connective comes next where the quotes are balanced. -/
  undivided : ∀ token ∈ tokens, token.kind = .matcher →
    ∀ comparator value, token.child? .comparator = some comparator →
      Keyword.isMatcherOperator comparator.value = true →
      token.child? .value = some value →
      ∀ cursor, value.start < cursor → cursor ≤ token.stop →
        (QuoteState.ofText (token.upTo cursor)).balanced = true →
        ¬ ConnectiveFirst (text.drop cursor)

/-! ## A triple -/

section Triple

variable {run rest column gap word space value tail : Text}

/-- A triple begins with its column. -/
theorem IsTriple.column_ne_nil (h : IsTriple run rest)
    (hParts : Parts run column gap word space value tail) : column ≠ [] := by
  intro hNone
  have hBehind := hParts.behind_column
  have hRun := hParts.run_eq
  rw [hNone, List.nil_append] at hRun
  rw [← hRun] at hBehind
  rcases hBehind with hNil | hBlank
  · exact h.ne_nil hNil
  · rw [h.starts] at hBlank
    cases hBlank

/-- What a triple has come to when something follows it. -/
theorem IsTriple.of_rest (h : IsTriple run rest) (hRest : rest ≠ [])
    (hParts : Parts run column gap word space value tail) :
    value ≠ [] ∧ Keyword.isMatcherOperator word = true ∧
      (QuoteState.ofText run).isOpen = false ∧ ConnectiveFirst rest := by
  obtain ⟨hStage, hClosed, hFirst⟩ := h.whole.resolve_left hRest
  obtain ⟨hValue, hWord⟩ := (stage_eq_value_iff hParts).mp hStage
  exact ⟨hValue, hWord, hClosed, hFirst⟩

/-- No blank is left at the end of a triple that something follows: without it
the triple was whole already. -/
theorem IsTriple.tail_eq_nil (h : IsTriple run rest) (hRest : rest ≠ [])
    (hParts : Parts run column gap word space value tail) : tail = [] := by
  obtain ⟨hValue, hWord, hClosed, hFirst⟩ := h.of_rest hRest hParts
  rcases List.eq_nil_or_concat tail with hNone | ⟨others, c, hConcat⟩
  · exact hNone
  · rw [List.concat_eq_append] at hConcat
    have hBlank : isBlank c = true := hParts.tail_blank c (by simp [hConcat])
    have hSplit : column ++ (gap ++ (word ++ (space ++ (value ++ others)))) ++
        [c] = run := by
      rw [hParts.run_eq, hConcat]
      simp
    have hSeen : column ++ (gap ++ (word ++ (space ++ (value ++ others)))) ≠
        [] := by
      simp [hValue]
    have hPlace := h.passes _ [c] hSeen (List.cons_ne_nil c []) hSplit
    have hStarts : Text.startsBlank (value ++ others) = false := by
      rw [Text.startsBlank_append_of_ne_nil hValue]
      exact hParts.value_starts
    have hStage := stage_of_begun hParts hValue hWord (by simp [hValue]) hStarts
    have hQuote : '"' ∉ [c] := by
      rw [List.mem_singleton]
      rintro rfl
      exact absurd hBlank (by decide)
    rw [← hSplit, QuoteState.ofText_append,
      QuoteState.isOpen_foldl_push hQuote] at hClosed
    exact absurd (Or.inr ⟨hStage, hClosed, hFirst.cons hBlank⟩)
      hPlace.not_whole

/-- **A triple that something follows is complete.** -/
theorem IsTriple.complete (h : IsTriple run rest) (hRest : rest ≠ [])
    {start : Nat} {token : Token} (hValue : token.value = run)
    (hToken : Token.composite .matcher (split run start) = some token) :
    token.CompleteTriple := by
  obtain ⟨column, gap, word, space, value, tail, hParts⟩ := exists_parts run
  have hColumn := h.column_ne_nil hParts
  have hTail := h.tail_eq_nil hRest hParts
  obtain ⟨hSome, hWord, hClosed, _⟩ := h.of_rest hRest hParts
  have hSpace : space ≠ [] := fun hNone => hSome (hParts.space_missing hNone)
  have hLetters : word ≠ [] := fun hNone => hSpace (hParts.word_missing hNone)
  have hGap : gap ≠ [] := fun hNone => hLetters (hParts.gap_missing hNone)
  have hPairs : token.children.map (fun part => (part.kind, part.value)) =
      [(.column, column), (.whitespace, gap), (.comparator, word),
        (.whitespace, space), (.value, value)] := by
    rw [(children_composite hToken).2, split, groups_of_parts hParts,
      map_leaves]
    simp [hColumn, hGap, hLetters, hSpace, hSome, hTail]
  refine ⟨?_, ?_, ?_, ?_, ?_⟩
  · have hKinds := congrArg (List.map Prod.fst) hPairs
    rw [List.map_map] at hKinds
    exact hKinds
  · rw [(children_composite hToken).2]
    exact filled_leaves (groups run) start
  · have hChild := child?_comparator hParts hToken
    rw [if_neg hLetters] at hChild
    obtain ⟨part, hPart, hSame⟩ := Option.map_eq_some_iff.mp hChild
    exact ⟨part, hPart, by rw [hSame]; exact hWord⟩
  · rw [hValue, QuoteState.balanced, hClosed]
    rfl
  · obtain ⟨operator, hOperator⟩ := Operator.exists_ofKind?_matcher hWord
    have hTerm := Term.ofToken_of_parts hParts hColumn hToken
    rw [hOperator, Option.map_some, if_neg hSome] at hTerm
    exact ⟨_, hTerm, rfl, rfl⟩

/-- **No connective comes next** inside the value of a triple where the quotes
are balanced: the triple would have been over there. -/
theorem IsTriple.undivided (h : IsTriple run rest)
    (hParts : Parts run column gap word space value tail) (hValue : value ≠ [])
    (hWord : Keyword.isMatcherOperator word = true) {count : Nat}
    (hBegun : (column ++ (gap ++ (word ++ space))).length < count)
    (hCount : count < run.length)
    (hClosed : (QuoteState.ofText (run.take count)).isOpen = false) :
    ¬ ConnectiveFirst (run.drop count ++ rest) := by
  have hSplit := List.take_append_drop count run
  have hAhead : run.drop count ≠ [] := by
    rw [ne_eq, List.drop_eq_nil_iff]
    omega
  have hSeen : run.take count ≠ [] := by
    rw [ne_eq, List.take_eq_nil_iff]
    rintro (hZero | hNil)
    · omega
    · exact h.ne_nil hNil
  have hPlace := h.passes _ _ hSeen hAhead hSplit
  intro hFirst
  apply hPlace.not_whole
  right
  refine ⟨?_, hClosed, hFirst⟩
  have hRun : run = column ++ (gap ++ (word ++ space)) ++ (value ++ tail) := by
    rw [hParts.run_eq]
    simp
  obtain ⟨more, hMore⟩ := Nat.exists_eq_add_of_lt hBegun
  have hBegunValue : (value ++ tail).take (more + 1) ≠ [] := by
    simp [hValue]
  have hStarts : Text.startsBlank ((value ++ tail).take (more + 1)) = false := by
    obtain ⟨c, others, hCons⟩ := List.exists_cons_of_ne_nil hValue
    have hFirst := hParts.value_starts
    rw [hCons] at hFirst ⊢
    exact hFirst
  have hStage := stage_of_begun hParts hValue hWord hBegunValue hStarts
  have hTake : run.take count = column ++ (gap ++ (word ++ (space ++
      (value ++ tail).take (more + 1)))) := by
    rw [hRun, hMore, Nat.add_assoc, List.take_length_add_append]
    simp
  rw [hTake]
  exact hStage

end Triple

/-! ## Tokens in turn -/

section Turns

variable {before run rest : Text} {token : Token} {tokens : List Token}

theorem Piece.fits (h : Piece before run rest token) :
    token.Fits before run rest := by
  cases h with
  | blanks hRun _ _ =>
      exact ⟨Token.spans_leaf .whitespace before.length hRun,
        Token.hasParts_leaf _ rfl run before.length⟩
  | connective _ hRun =>
      exact ⟨Token.spans_leaf .separator before.length
        (ne_nil_of_isSeparator hRun.1),
        Token.hasParts_leaf _ rfl run before.length⟩
  | triple hRun hToken =>
      apply @offer_fits phraseUnits _ _ _ 1
      rw [offer_whole hRun.ne_nil hRun.whole]
      exact hToken

/-- A cut is one into the pieces of a matcher phrase. -/
theorem cut_iff_pieces {text : Text} :
    Cut before text tokens ↔ Pieces Piece before text tokens := by
  constructor
  · intro h
    induction h with
    | nil before => exact .nil before
    | cons hPiece _ ih => exact .cons hPiece ih
  · intro h
    induction h with
    | nil before => exact .nil before
    | cons hPiece _ ih => exact .cons hPiece ih

/-- Where a token of a cut stands. -/
theorem Cut.at_token {text : Text} {front back : List Token}
    (h : Cut before text (front ++ token :: back)) :
    ∃ seen run rest, text = seen ++ (run ++ rest) ∧
      Piece (before ++ seen) run rest token ∧
        Cut (before ++ seen ++ run) rest back := by
  simp only [cut_iff_pieces] at h ⊢
  exact h.at_token

/-- Blanks in front of a text are its first token. -/
theorem Cut.head_blanks {text : Text} (h : Cut before text tokens)
    (hBlank : text.startsBlank = true) :
    ∃ first others, tokens = first :: others ∧ first.kind = .whitespace := by
  obtain ⟨blanks, rest, hText, hBlanks, hRest⟩ := Text.cut_blanks text
  have hSome : blanks ≠ [] := by
    rintro rfl
    rw [hText, List.nil_append, hRest] at hBlank
    cases hBlank
  obtain ⟨others, hTokens, _⟩ := h.head (.blanks hSome hBlanks hRest) hText
  exact ⟨_, others, hTokens, rfl⟩

/-- Blanks follow a connective and a triple. -/
theorem Piece.next_blank (h : Piece before run rest token)
    (hKind : token.kind ≠ .whitespace) (hBack : Cut (before ++ run) rest tokens) :
    ∀ next, tokens.head? = some next → next.kind = .whitespace := by
  have hEnds : Text.EndsWord rest := by
    cases h with
    | blanks _ _ _ => exact absurd rfl hKind
    | connective _ hRun => exact hRun.2
    | triple hRun _ => exact hRun.whole.endsWord
  intro next hNext
  rcases hEnds with hNil | hBlank
  · subst hNil
    have hNone := hBack.unique (.nil _)
    rw [hNone] at hNext
    cases hNext
  · obtain ⟨first, others, hTokens, hFirst⟩ := hBack.head_blanks hBlank
    rw [hTokens, List.head?_cons, Option.some.injEq] at hNext
    rw [← hNext]
    exact hFirst

/-- Blanks and a connective follow a triple that is not the last token. -/
theorem Cut.head_connective {text : Text} (h : Cut before text tokens)
    (hFirst : ConnectiveFirst text) :
    ∃ blanks connective others, tokens = blanks :: connective :: others ∧
      blanks.kind = .whitespace ∧ connective.kind = .separator := by
  obtain ⟨blanks, word, others, hText, hSome, hBlanks, hWord, hOthers⟩ := hFirst
  obtain ⟨back, hTokens, _⟩ :=
    h.head_pieces hText hSome hBlanks ⟨hWord, hOthers⟩
  exact ⟨_, _, back, hTokens, rfl, rfl⟩

/-- Blanks are in front of a connective, unless it comes first. -/
theorem Cut.last_blank {text : Text} {front back : List Token}
    (h : Cut before text (front ++ token :: back))
    (hKind : token.kind = .separator) :
    ∀ last, front.getLast? = some last → last.kind = .whitespace := by
  intro last hLast
  obtain ⟨others, hFront⟩ := List.getLast?_eq_some_iff.mp hLast
  by_contra hOther
  rw [hFront, List.append_assoc] at h
  obtain ⟨_, _, _, _, hBefore, hBehind⟩ := h.at_token
  have hBlank := hBefore.next_blank hOther hBehind token rfl
  rw [hKind] at hBlank
  cases hBlank

/-- In terms of the token, its parts and the offsets of the text. -/
theorem IsTriple.undivided_token (h : IsTriple run rest)
    (hToken : Token.composite .matcher (split run before.length) = some token)
    (hFits : token.Fits before run rest) {comparator value : Token}
    (hComparator : token.child? .comparator = some comparator)
    (hOperator : Keyword.isMatcherOperator comparator.value = true)
    (hValue : token.child? .value = some value) {cursor : Nat}
    (hStart : value.start < cursor) (hStop : cursor ≤ token.stop)
    (hBalanced : (QuoteState.ofText (token.upTo cursor)).balanced = true) :
    ¬ ConnectiveFirst ((before ++ (run ++ rest)).drop cursor) := by
  obtain ⟨hTokenStart, hTokenValue, hNext⟩ := hFits.spans
  obtain ⟨column, gap, word, space, written, tail, hParts⟩ := exists_parts run
  obtain ⟨hSome, hValueStart⟩ := start_child?_value hParts hToken hValue
  have hWord : Keyword.isMatcherOperator word = true := by
    have hChild := child?_comparator hParts hToken
    rw [hComparator, Option.map_some] at hChild
    split at hChild
    · cases hChild
    · rw [← Option.some.inj hChild]
      exact hOperator
  have hDrop : (before ++ (run ++ rest)).drop cursor =
      run.drop (cursor - before.length) ++ rest := by
    have hCursor : cursor = before.length + (cursor - before.length) := by
      omega
    rw [hCursor, List.drop_length_add_append, Nat.add_sub_cancel_left,
      List.drop_append_of_le_length (by omega)]
  rw [hDrop]
  apply h.undivided hParts hSome hWord
  · omega
  · omega
  · rw [Token.upTo, hTokenValue, hTokenStart, QuoteState.balanced,
      Bool.not_eq_true'] at hBalanced
    exact hBalanced

end Turns

/-! ## The whole phrase -/

/-- **The form of a matcher phrase.** Whatever the text, connectives stand
between blanks, every triple that something follows is complete and followed by
blanks and a connective, and no triple has a connective between blanks inside
its value where the quotes are balanced. -/
theorem phrase_form (text : Text) :
    PhraseForm text (Grammar.matcher.tokens text) := by
  have hCut := cut_tokens text
  refine ⟨?_, ?_, ?_, ?_⟩
  · intro token hToken
    obtain ⟨front, back, hTokens⟩ := List.append_of_mem hToken
    rw [hTokens] at hCut
    obtain ⟨_, _, _, _, hPiece, _⟩ := hCut.at_token
    cases hPiece with
    | blanks _ _ _ => exact Or.inl rfl
    | connective _ _ => exact Or.inr (Or.inl rfl)
    | triple _ hComposite =>
        exact Or.inr (Or.inr (children_composite hComposite).1)
  · intro front token back hTokens hKind hBack
    rw [hTokens] at hCut
    obtain ⟨seen, run, rest, _, hPiece, hRest⟩ := hCut.at_token
    have hValue := hPiece.fits.spans.value_eq
    cases hPiece with
    | blanks _ _ _ => cases hKind
    | connective _ _ => cases hKind
    | triple hTriple hComposite =>
        have hSome : rest ≠ [] := by
          rintro rfl
          exact hBack (hRest.unique (.nil _))
        refine ⟨hTriple.complete hSome hValue hComposite, ?_⟩
        exact hRest.head_connective (hTriple.whole.resolve_left hSome).2.2
  · intro front token back hTokens hKind
    rw [hTokens] at hCut
    have hLast := hCut.last_blank hKind
    obtain ⟨seen, run, rest, _, hPiece, hRest⟩ := hCut.at_token
    have hNext := hPiece.next_blank (by rw [hKind]; decide) hRest
    refine ⟨?_, hLast, hNext⟩
    cases hPiece with
    | blanks _ _ _ => cases hKind
    | connective _ hRun => exact hRun.1
    | triple _ hComposite =>
        rw [(children_composite hComposite).1] at hKind
        cases hKind
  · intro token hToken hKind comparator value hComparator hOperator hValue cursor
      hStart hStop hBalanced
    obtain ⟨front, back, hTokens⟩ := List.append_of_mem hToken
    rw [hTokens] at hCut
    obtain ⟨seen, run, rest, hText, hPiece, _⟩ := hCut.at_token
    rw [List.nil_append] at hPiece
    have hFits := hPiece.fits
    rw [hText]
    cases hPiece with
    | blanks _ _ _ => cases hKind
    | connective _ _ => cases hKind
    | triple hTriple hComposite =>
        exact hTriple.undivided_token hComposite hFits hComparator hOperator
          hValue hStart hStop hBalanced

end Lexer

end QueryPhrase
