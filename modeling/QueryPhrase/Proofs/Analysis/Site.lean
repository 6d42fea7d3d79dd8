import QueryPhrase.Proofs.Analysis.Location

/-!
# What a completion takes the place of

At a cursor a completion takes the place of the token there, or it is put in
where nothing of it is typed yet. What counts as typed is what the text has from
the start of that token up to the cursor, less the quote that opens a phrase. So
whoever shows completions may replace just that stretch of the text.

## Main definitions

* `Analysis.Inserts` — the tokens behind which something new begins.
* `Analysis.openingQuote` — the quote that a typed text leaves out.
* `Analysis.Completes` — what an analysis says of the completion at its cursor.

## Main results

* `siteOf_of_inserts`, `siteOf_of_not_inserts` — what is completed at a token.
* `Grammar.analyze_completes` — the typed text is the text before the cursor.
-/

namespace QueryPhrase

namespace Analysis

/-! ## The site at a token -/

/-- Something new begins at the cursor: the token there is blank or a colon, or
it is a quoted value and the cursor is right behind its closing quote. -/
def Inserts (token : Token) (cursor : Nat) : Prop :=
  token.kind = .whitespace ∨ token.kind = .delimiter ∨
    (token.kind = .value ∧ closesPhrase token.value = true ∧
      cursor = token.stop + 1)

/-- The quote that opens the token, if it is a quoted value and the cursor is
past the quote. -/
def openingQuote (token : Token) (cursor : Nat) : Text :=
  if token.kind = .value ∧ isPhrase token.value = true ∧ token.start < cursor
  then ['"'] else []

section Site

variable {current : Token} {cursor : Nat} (parent : Option Token)

theorem isPhrase_of_closesPhrase {value : Text}
    (h : closesPhrase value = true) : isPhrase value = true := by
  unfold closesPhrase at h
  split at h
  · rfl
  · cases h

theorem siteOf_of_inserts (h : Inserts current cursor) :
    siteOf current parent cursor = insertion parent := by
  rcases h with hKind | hKind | ⟨hKind, hCloses, hCursor⟩
  · simp only [siteOf, hKind]
  · simp only [siteOf, hKind]
  · have hBehind : current.stop < cursor := by omega
    simp [siteOf, hKind, hCloses, hBehind, isPhrase_of_closesPhrase hCloses]

/-- A quoted value loses its opening quote, once the cursor is past it. -/
theorem openingQuote_append_dropQuote (hKind : current.kind = .value)
    (hPhrase : isPhrase current.value = true) :
    openingQuote current cursor ++ dropQuote (current.upTo cursor) =
      current.upTo cursor := by
  by_cases hPast : current.start < cursor
  · obtain ⟨count, hCount⟩ : ∃ count, cursor - current.start = count + 1 :=
      ⟨cursor - current.start - 1, by omega⟩
    unfold isPhrase at hPhrase
    split at hPhrase
    · next inner hValue =>
      simp [openingQuote, hKind, hValue, isPhrase, hPast, Token.upTo, hCount,
        dropQuote]
    · cases hPhrase
  · have hNone : cursor - current.start = 0 := by omega
    simp [openingQuote, hPast, Token.upTo, hNone, dropQuote]

/-- Anywhere else the token is replaced, and the typed text is what it has up to
the cursor, less its opening quote. -/
theorem siteOf_of_not_inserts (h : ¬ Inserts current cursor)
    (hCursor : cursor ≤ current.stop + 1) :
    ∃ typed, siteOf current parent cursor = ⟨some current, parent, typed⟩ ∧
      openingQuote current cursor ++ typed = current.upTo cursor := by
  by_cases hQuoted : current.kind = .value ∧ isPhrase current.value = true
  · obtain ⟨hKind, hPhrase⟩ := hQuoted
    have hOpen : ¬ (closesPhrase current.value = true ∧
        current.stop < cursor) := by
      rintro ⟨hCloses, hBehind⟩
      exact h (Or.inr (Or.inr ⟨hKind, hCloses, by omega⟩))
    refine ⟨_, ?_, openingQuote_append_dropQuote hKind hPhrase⟩
    simp [siteOf, hKind, hPhrase, hOpen]
  · have hNoQuote : openingQuote current cursor = [] := by
      rw [openingQuote, if_neg]
      exact fun hAll => hQuoted ⟨hAll.1, hAll.2.1⟩
    have hBlank : current.kind ≠ .whitespace := fun hKind => h (Or.inl hKind)
    have hColon : current.kind ≠ .delimiter :=
      fun hKind => h (Or.inr (Or.inl hKind))
    refine ⟨current.upTo cursor, ?_, by rw [hNoQuote]; rfl⟩
    unfold siteOf
    split
    · contradiction
    · contradiction
    · next hKind => rw [if_neg fun hPhrase => hQuoted ⟨hKind, hPhrase⟩]
    · rfl

end Site

/-! ## The text before the cursor -/

/-- What an analysis says of the completion at its cursor, where it has found
the token `current`. -/
structure Completes (text : Text) (analysis : Analysis) (current : Token) :
    Prop where
  current_eq : analysis.current = some current
  parent_eq : analysis.site.parent = analysis.parent
  /-- What is replaced is the current token, from its start up to the cursor. -/
  replaces : ∀ token, analysis.site.token = some token → token = current ∧
    token.start ≤ analysis.cursor ∧
      (text.drop token.start).take (analysis.cursor - token.start) =
        openingQuote token analysis.cursor ++ analysis.site.typed
  inserts_iff : analysis.site.token = none ↔ Inserts current analysis.cursor
  typed_eq_nil : analysis.site.token = none → analysis.site.typed = []

/-- The leaf at a cursor stands in the text, and the cursor is in it or right
behind it. -/
theorem Located.stands {analysis : Analysis} {current : Token} {text : Text}
    (h : Located analysis current) (hTiling : Tiling text analysis.tokens) :
    current.Covers text ∧ current.start ≤ analysis.cursor ∧
      analysis.cursor ≤ current.stop + 1 := by
  have hMem := List.mem_filter.mp (h.only_leaf ▸ List.mem_singleton_self current)
  have hAt := Token.isAt_iff.mp hMem.2
  have hLeaves := hTiling.tiles.leavesOf hTiling.hasParts
  exact ⟨hLeaves.covers current hMem.1, by omega, by omega⟩

/-- What a token has up to a cursor is what the text has there. -/
theorem upTo_eq_of_covers {text : Text} {token : Token} {cursor : Nat}
    (h : token.Covers text) (hCursor : cursor ≤ token.stop + 1) :
    token.upTo cursor =
      (text.drop token.start).take (cursor - token.start) := by
  have hWithin : min (cursor - token.start) (token.stop + 1 - token.start) =
      cursor - token.start := by omega
  rw [Token.upTo, h.value_eq, List.take_take, hWithin]

/-- **What is completed at a cursor** in tokens that tile the text. -/
theorem completes_of_located {text : Text} {tokens : List Token} {cursor : Nat}
    (hTiling : Tiling text tokens) {current : Token} {parent : Option Token}
    (h : Located ⟨cursor, tokens, some current, parent,
      siteOf current parent cursor⟩ current) :
    Completes text ⟨cursor, tokens, some current, parent,
      siteOf current parent cursor⟩ current := by
  obtain ⟨hCovers, hStart, hStop⟩ := h.stands hTiling
  by_cases hInserts : Inserts current cursor
  · have hSite := siteOf_of_inserts parent hInserts
    refine ⟨rfl, ?_, ?_, ?_, ?_⟩ <;> simp [hSite, insertion, hInserts]
  · obtain ⟨typed, hSite, hTyped⟩ :=
      siteOf_of_not_inserts parent hInserts hStop
    refine ⟨rfl, by rw [hSite], ?_, by simp [hSite, hInserts], by simp [hSite]⟩
    intro token hToken
    rw [hSite] at hToken
    cases hToken
    refine ⟨rfl, hStart, ?_⟩
    rw [hSite, hTyped, upTo_eq_of_covers hCovers hStop]

end Analysis

/-- **The typed text is the text before the cursor.** Under each grammar a
completion at a cursor in a text replaces the token there or is inserted. If it
replaces the token, what the text has from the start of the token to the cursor
is the typed text, behind the quote that opens a quoted value. It is inserted,
and nothing is typed, behind blanks, a colon and the closing quote of a value,
and nowhere else. -/
theorem Grammar.analyze_completes (grammar : Grammar) {text : Text}
    (hText : text ≠ []) (cursor : Nat) :
    (grammar.analyze text cursor).cursor = min cursor text.length ∧
      ∃ current, (grammar.analyze text cursor).Completes text current := by
  obtain ⟨current, parent, hAnalysis, hLocated⟩ :=
    Lexer.exists_analyze_eq grammar.units text cursor hText
  have hSame : grammar.analyze text cursor = _ := hAnalysis
  rw [hAnalysis] at hLocated
  rw [hSame]
  exact ⟨rfl, current, Analysis.completes_of_located
    (Lexer.tokens_tile grammar.units text) hLocated⟩

/-- Between the quotes of a value, the opening one is not typed. -/
theorem Grammar.analyze_completes_of_quoted :
    let text : Text := "a:\"b c\" d"
    text ≠ [] ∧ (Grammar.field.analyze text 5).site.typed = "b " ∧
      (Grammar.field.analyze text 5).cursor = min 5 text.length ∧
      ∃ current, (Grammar.field.analyze text 5).Completes text current := by
  intro text
  have hText : text ≠ [] := by decide
  have hTyped : (Grammar.field.analyze text 5).site.typed = "b " := by
    decide +kernel
  exact ⟨hText, hTyped, Grammar.analyze_completes .field hText 5⟩

end QueryPhrase
