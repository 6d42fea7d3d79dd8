import QueryPhrase.Proofs.Lexer.Query

/-!
# The form of a boolean query

What can be relied on of the tokens of any boolean query, however odd the text.
Blanks are taken all at once. No word is an operator, and none has a colon in it
but at its front, for any other colon makes a field term. A field term ends with
the word it is in, unless its value is a phrase. So two tokens touch only where
a phrase is closed in the middle of a word.

Everything is read off the pieces that the text is cut into.

## Main definitions

* `Token.FieldParts` — the parts of a field term.
* `Lexer.QueryForm` — what the tokens of a query are like.

## Main results

* `Lexer.query_form` — the tokens of every text are like that.
-/

namespace QueryPhrase

/-- A token is made of a field, if there is one, of one colon and of a value, if
there is one. -/
structure Token.FieldParts (token : Token) (field value : Option Token) :
    Prop where
  children_eq : ∃ delimiter, token.children =
      field.toList ++ delimiter :: value.toList ∧
    delimiter.kind = .delimiter ∧ delimiter.value = [':']
  field_word : ∀ part ∈ field, part.kind = .field ∧ part.value ≠ [] ∧
    ∀ c ∈ part.value, isBlank c = false ∧ c ≠ ':'
  value_filled : ∀ part ∈ value, part.kind = .value ∧ part.value ≠ []

namespace Lexer

/-- What the tokens of a boolean query are like. -/
structure QueryForm (text : Text) (tokens : List Token) : Prop where
  kinds : ∀ token ∈ tokens, token.kind = .whitespace ∨
    token.kind = .operator ∨ token.kind = .word ∨ token.kind = .term
  /-- Blanks are all the blanks there are between two other characters or the
  ends of the text. -/
  whitespace : ∀ token ∈ tokens, token.kind = .whitespace →
    token.value ≠ [] ∧ (∀ c ∈ token.value, isBlank c = true) ∧
      Text.EndsSolid (text.take token.start) ∧
      Text.startsBlank (text.drop (token.stop + 1)) = false
  operator : ∀ token ∈ tokens, token.kind = .operator →
    token.value ∈ Keyword.booleanOperators
  word : ∀ token ∈ tokens, token.kind = .word →
    (∀ c ∈ token.value, isBlank c = false) ∧ ':' ∉ token.value.tail ∧
      token.value ∉ Keyword.booleanOperators
  /-- A field term whose value is no phrase ends with the word it is in. -/
  term : ∀ token ∈ tokens, token.kind = .term →
    ∃ field value, token.FieldParts field value ∧
      (value.any (isPhrase ·.value) = false →
        (∀ part ∈ value, ∀ c ∈ part.value, isBlank c = false) ∧
          Text.EndsWord (text.drop (token.stop + 1)))
  /-- No blanks are needed behind a phrase that is closed. -/
  adjacent : ∀ front left right back, tokens = front ++ left :: right :: back →
    left.kind ≠ .whitespace → right.kind ≠ .whitespace →
      left.kind = .term ∧ ∃ value, left.child? .value = some value ∧
        closesPhrase value.value = true

/-! ## Parts -/

section Parts

variable {name late others rest value : Text} {start : Nat} {token : Token}

/-- The leaf of a group, if the group holds something. -/
def leaf? (kind : TokenKind) (piece : Text) (start : Nat) : Option Token :=
  if piece = [] then none else some (Token.leaf kind piece start)

theorem mem_leaf? {kind : TokenKind} {piece : Text} {part : Token}
    (hPart : part ∈ leaf? kind piece start) :
    part.kind = kind ∧ part.value = piece ∧ piece ≠ [] := by
  obtain ⟨hFilled, hLeaf⟩ := Option.ite_none_left_eq_some.mp hPart
  cases hLeaf
  exact ⟨rfl, rfl, hFilled⟩

/-- The parts of the token of a field term. -/
theorem children_term (hToken : Token.composite .term
      (MatcherTriple.leaves (termGroups name value) start) = some token) :
    token.children = (leaf? .field name start).toList ++
      Token.leaf .delimiter [':'] (start + name.length) ::
        (leaf? .value value (start + name.length + 1)).toList := by
  rw [(MatcherTriple.children_composite hToken).2]
  by_cases hName : name = [] <;> by_cases hValue : value = [] <;>
    simp [termGroups, MatcherTriple.leaves, leaf?, hName, hValue]

theorem child?_term (hToken : Token.composite .term
      (MatcherTriple.leaves (termGroups name value) start) = some token) :
    token.child? .value = leaf? .value value (start + name.length + 1) := by
  rw [Token.child?, children_term hToken]
  by_cases hName : name = [] <;> by_cases hValue : value = [] <;>
    simp [leaf?, hName, hValue, Token.leaf]

theorem IsFieldTerm.fieldParts (h : IsFieldTerm name late others rest)
    (hToken : Token.composite .term (MatcherTriple.leaves
      (termGroups name (late ++ others)) start) = some token) :
    token.FieldParts (leaf? .field name start)
      (leaf? .value (late ++ others) (start + name.length + 1)) := by
  refine ⟨⟨_, children_term hToken, rfl, rfl⟩, ?_, ?_⟩
  · intro part hPart
    obtain ⟨hKind, hValue, hFilled⟩ := mem_leaf? hPart
    rw [hKind, hValue]
    refine ⟨rfl, hFilled, ?_⟩
    intro c hMem
    refine ⟨h.name_solid c hMem, ?_⟩
    rintro rfl
    exact h.name_colon hMem
  · intro part hPart
    obtain ⟨hKind, hValue, hFilled⟩ := mem_leaf? hPart
    rw [hKind, hValue]
    exact ⟨rfl, hFilled⟩

/-- The value of a field term is a phrase exactly when its leaf holds one. -/
theorem any_isPhrase_leaf? :
    (leaf? .value value start).any (isPhrase ·.value) = isPhrase value := by
  by_cases hValue : value = [] <;> simp [leaf?, hValue, Token.leaf, isPhrase]

end Parts

/-! ## Tokens in turn -/

section Turns

variable {before run rest : Text} {token : Token}

theorem QueryPiece.fits (h : QueryPiece before run rest token) :
    token.Fits before run rest := by
  cases h with
  | blanks hRun _ _ _ =>
      exact ⟨Token.spans_leaf .whitespace before.length hRun,
        Token.hasParts_leaf _ rfl run before.length⟩
  | operator hWord _ =>
      exact ⟨Token.spans_leaf .operator before.length
        (Keyword.solid_of_isBooleanOperator hWord).1,
        Token.hasParts_leaf _ rfl run before.length⟩
  | word hRun _ _ _ _ =>
      exact ⟨Token.spans_leaf .word before.length hRun,
        Token.hasParts_leaf _ rfl run before.length⟩
  | term hTerm hRun hToken =>
      apply @offer_fits queryUnits _ _ _ 0
      rw [hRun, offer_term hTerm.name_colon hTerm.ends]
      exact hToken

theorem QueryPiece.ne_nil (h : QueryPiece before run rest token) : run ≠ [] := by
  cases h with
  | blanks hRun _ _ _ => exact hRun
  | operator hWord _ => exact (Keyword.solid_of_isBooleanOperator hWord).1
  | word hRun _ _ _ _ => exact hRun
  | term _ hRun _ =>
      rw [hRun]
      simp

/-- A piece with the token of a field term is one. -/
theorem QueryPiece.exists_term (h : QueryPiece before run rest token)
    (hKind : token.kind = .term) :
    ∃ name late others, IsFieldTerm name late others rest ∧
      run = name ++ ':' :: (late ++ others) ∧
        Token.composite .term (MatcherTriple.leaves
          (termGroups name (late ++ others)) before.length) = some token := by
  cases h with
  | blanks _ _ _ _ => cases hKind
  | operator _ _ => cases hKind
  | word _ _ _ _ _ => cases hKind
  | term hTerm hRun hToken => exact ⟨_, _, _, hTerm, hRun, hToken⟩

/-- Only blanks begin with a blank. -/
theorem QueryPiece.startsBlank (h : QueryPiece before run rest token)
    (hKind : token.kind ≠ .whitespace) : run.startsBlank = false := by
  cases h with
  | blanks _ _ _ _ => exact absurd rfl hKind
  | operator hWord _ =>
      exact Text.startsBlank_of_word (Keyword.solid_of_isBooleanOperator hWord).2
  | word _ hSolid _ _ _ => exact Text.startsBlank_of_word hSolid
  | @term name late others _ hTerm hRun _ =>
      have hFront : Text.startsBlank (name ++ [':']) = false := by
        apply Text.startsBlank_of_word
        rw [List.forall_mem_append, List.forall_mem_singleton]
        exact ⟨hTerm.name_solid, by decide⟩
      rw [hRun, List.append_cons, Text.startsBlank_append_of_ne_nil (by simp)]
      exact hFront

/-- A token that other than blanks follow is a field term, and its value is a
phrase that is closed. -/
theorem QueryPiece.closes (h : QueryPiece before run rest token)
    (hKind : token.kind ≠ .whitespace) (hRest : ¬ Text.EndsWord rest) :
    token.kind = .term ∧ ∃ value, token.child? .value = some value ∧
      closesPhrase value.value = true := by
  cases h with
  | blanks _ _ _ _ => exact absurd rfl hKind
  | operator _ hEnds => exact absurd hEnds hRest
  | word _ _ _ _ hEnds => exact absurd hEnds hRest
  | @term name late others _ hTerm _ hToken =>
      have hSome : rest ≠ [] := fun hNil => hRest (Or.inl hNil)
      cases hPhrase : isPhrase (late ++ others) with
      | false => exact absurd (hTerm.ends.endsWord hPhrase) hRest
      | true =>
          have hValue : late ++ others ≠ [] := by
            intro hNil
            rw [hNil] at hPhrase
            cases hPhrase
          have hChild := child?_term hToken
          rw [leaf?, if_neg hValue] at hChild
          exact ⟨(MatcherTriple.children_composite hToken).1, _, hChild,
            hTerm.ends.closes hPhrase hSome⟩

/-- Where a token of a query stands. -/
theorem exists_queryPiece {text : Text}
    (hToken : token ∈ Grammar.field.tokens text) :
    ∃ before run rest, text = before ++ (run ++ rest) ∧
      QueryPiece before run rest token := by
  obtain ⟨front, back, hTokens⟩ := List.append_of_mem hToken
  have hPieces := pieces_tokens text
  rw [hTokens] at hPieces
  obtain ⟨before, run, rest, hText, hPiece, _⟩ := hPieces.at_token
  exact ⟨before, run, rest, hText, hPiece⟩

end Turns

/-! ## The whole query -/

/-- **The form of a boolean query.** Whatever the text, blanks are taken all at
once, no word is an operator or has a colon inside, every field term has one
colon between its field and its value, and where two tokens touch, the first is
a field term with a closed phrase for a value. -/
theorem query_form (text : Text) :
    QueryForm text (Grammar.field.tokens text) := by
  refine ⟨?_, ?_, ?_, ?_, ?_, ?_⟩
  · intro token hToken
    obtain ⟨before, run, rest, _, hPiece⟩ := exists_queryPiece hToken
    cases hPiece with
    | blanks _ _ _ _ => exact Or.inl rfl
    | operator _ _ => exact Or.inr (Or.inl rfl)
    | word _ _ _ _ _ => exact Or.inr (Or.inr (Or.inl rfl))
    | term _ _ hComposite =>
        exact Or.inr (Or.inr (Or.inr
          (MatcherTriple.children_composite hComposite).1))
  · intro token hToken hKind
    obtain ⟨before, run, rest, hText, hPiece⟩ := exists_queryPiece hToken
    have hSpans := hPiece.fits.spans
    rw [hText, hSpans.take_start, hSpans.drop_stop, hSpans.value_eq]
    cases hPiece with
    | blanks hRun hBefore hBlank hRest => exact ⟨hRun, hBlank, hBefore, hRest⟩
    | operator _ _ => cases hKind
    | word _ _ _ _ _ => cases hKind
    | term _ _ hToken =>
        cases hKind.symm.trans (MatcherTriple.children_composite hToken).1
  · intro token hToken hKind
    obtain ⟨before, run, rest, _, hPiece⟩ := exists_queryPiece hToken
    cases hPiece with
    | blanks _ _ _ _ => cases hKind
    | operator hWord _ => exact List.contains_iff_mem.mp hWord
    | word _ _ _ _ _ => cases hKind
    | term _ _ hToken =>
        cases hKind.symm.trans (MatcherTriple.children_composite hToken).1
  · intro token hToken hKind
    obtain ⟨before, run, rest, _, hPiece⟩ := exists_queryPiece hToken
    cases hPiece with
    | blanks _ _ _ _ => cases hKind
    | operator _ _ => cases hKind
    | word _ hSolid hColon hOther _ =>
        refine ⟨hSolid, hColon, fun hMem => ?_⟩
        have hWord : Keyword.isBooleanOperator run = true :=
          List.contains_iff_mem.mpr hMem
        rw [hWord] at hOther
        cases hOther
    | term _ _ hToken =>
        cases hKind.symm.trans (MatcherTriple.children_composite hToken).1
  · intro token hToken hKind
    obtain ⟨before, run, rest, hText, hPiece⟩ := exists_queryPiece hToken
    have hSpans := hPiece.fits.spans
    obtain ⟨name, late, others, hTerm, _, hComposite⟩ := hPiece.exists_term hKind
    refine ⟨_, _, hTerm.fieldParts hComposite, ?_⟩
    rw [any_isPhrase_leaf?, hText, hSpans.drop_stop]
    intro hPhrase
    refine ⟨?_, hTerm.ends.endsWord hPhrase⟩
    intro part hPart
    rw [(mem_leaf? hPart).2.1]
    exact hTerm.bare hPhrase
  · intro front left right back hTokens hLeft hRight
    have hPieces := pieces_tokens text
    rw [hTokens] at hPieces
    obtain ⟨before, run, rest, _, hPiece, hBack⟩ := hPieces.at_token
    have hRest : ¬ Text.EndsWord rest := by
      cases hBack with
      | cons hNext _ =>
          rw [Text.endsWord_append hNext.ne_nil]
          rintro (hNil | hBlank)
          · exact hNext.ne_nil hNil
          · rw [hNext.startsBlank hRight] at hBlank
            cases hBlank
    exact hPiece.closes hLeft hRest

/-- A word touches a field term behind its phrase. -/
example : (Grammar.field.tokens "a:\"b c\"d").map Token.value =
    (["a:\"b c\"", "d"] : List Text) := by
  decide +kernel

end Lexer

end QueryPhrase
