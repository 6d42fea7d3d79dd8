import QueryPhrase.Analysis
import QueryPhrase.Proofs.Lexer.Leaves

/-!
# The token at a cursor

An analysis goes down the token tree, on each level to the token that the cursor
touches, until it comes to one without parts. Between two tokens it takes the
left one, so what it looks for is the token that has the character left of the
cursor; at the start of the text it is the token that starts there.

Tokens on one level tile a stretch of the text, so exactly one of them has that
character (`Tiles.exists_at`). The leaves tile the text as well, whatever
composites they are parts of, so the leaf at the end of the descent is the only
one with the character, too.

## Main definitions

* `Token.isAt` — the token has the character left of a cursor.
* `Analysis.Located` — the leaf at a cursor and the composite it is a part of.

## Main results

* `Tiles.exists_filter_isAt` — one token at each cursor.
* `Analysis.exists_located` — the descent ends at the one leaf at the cursor.
* `Lexer.analyze_located` — the analysis of a text finds the leaf at the cursor.
-/

namespace QueryPhrase

/-! ## Tokens at a cursor -/

namespace Token

/-- Whether the character left of a cursor is one of the token's. At the start of
the text there is none, and the token has to start there. -/
def isAt (token : Token) (cursor : Nat) : Bool :=
  if cursor = 0 then token.start == 0
  else token.start ≤ cursor - 1 && cursor - 1 ≤ token.stop

/-- At the start of the text, the first character does for the one to the left.
-/
theorem isAt_iff {token : Token} {cursor : Nat} :
    token.isAt cursor = true ↔
      token.start ≤ cursor - 1 ∧ cursor - 1 ≤ token.stop := by
  by_cases hStart : cursor = 0
  · simp [isAt, hStart]
  · simp [isAt, hStart]

end Token

/-- At a cursor there is one token. -/
theorem Tiles.exists_filter_isAt {text : Text} {low high : Nat}
    {tokens : List Token} (h : Tiles text low tokens high) (cursor : Nat)
    (hLow : low ≤ cursor - 1) (hHigh : cursor - 1 < high) :
    ∃ token, tokens.filter (·.isAt cursor) = [token] := by
  obtain ⟨front, token, back, hSplit, hHere, hFront, hBack⟩ :=
    h.exists_at hLow hHigh
  have hFrontNone : front.filter (·.isAt cursor) = [] := by
    refine List.filter_eq_nil_iff.mpr fun other hOther => ?_
    have hStop := hFront other hOther
    rw [Token.isAt_iff]
    omega
  have hBackNone : back.filter (·.isAt cursor) = [] := by
    refine List.filter_eq_nil_iff.mpr fun other hOther => ?_
    have hStart := hBack other hOther
    rw [Token.isAt_iff]
    omega
  refine ⟨token, ?_⟩
  simp [hSplit, hFrontNone, hBackNone, Token.isAt_iff.mpr hHere]

namespace Analysis

/-! ## Going down the tree -/

section Descent

variable {tokens : List Token} {token : Token} {cursor : Nat}

private theorem only_iff {p : Token → Bool} (h : tokens.filter p = [token])
    (other : Token) : other ∈ tokens ∧ p other = true ↔ other = token := by
  rw [← List.mem_filter, h, List.mem_singleton]

/-- A cursor touches the one token it is at. -/
theorem touching_of_filter (h : tokens.filter (·.isAt cursor) = [token]) :
    touching tokens cursor = some token := by
  have hFind : tokens.find? (·.isAt cursor) = some token := by
    rw [← List.head?_filter, h]
    rfl
  by_cases hStart : cursor = 0
  · have hNone : tokens.find? (fun t => t.start < cursor &&
        cursor ≤ t.stop + 1) = none := by
      simp [hStart]
    rw [touching, hNone]
    simpa [Token.isAt, hStart] using hFind
  · have hSame : (fun t : Token => decide (t.start < cursor) &&
        decide (cursor ≤ t.stop + 1)) = (·.isAt cursor) := by
      funext t
      rw [Bool.eq_iff_iff, Token.isAt_iff, Bool.and_eq_true, decide_eq_true_iff,
        decide_eq_true_iff]
      omega
    rw [touching, hSame, hFind]
    rfl

theorem descend_childless (parent : Option Token) (h : token.children = []) :
    descend cursor token parent = (token, parent) := by
  have hNone : touching token.children cursor = none := by
    rw [h]
    rfl
  rw [descend]
  split
  · next hSome => rw [hNone] at hSome; cases hSome
  · rfl

theorem descend_part {part : Token} (parent : Option Token)
    (h : touching token.children cursor = some part) :
    descend cursor token parent = descend cursor part (some token) := by
  rw [descend]
  split
  · next hSome =>
    rw [h] at hSome
    cases hSome
    rfl
  · next hNone => rw [h] at hNone; cases hNone

end Descent

/-! ## What is found -/

/-- The analysis has found the leaf at its cursor: it is the only one there, and
`parent` is the composite that it is a part of. -/
structure Located (analysis : Analysis) (current : Token) : Prop where
  current_eq : analysis.current = some current
  childless : current.children = []
  only_leaf : (Token.leavesOf analysis.tokens).filter
    (·.isAt analysis.cursor) = [current]
  /-- A leaf at top level has no parent, and any other leaf has one. -/
  parent_none_iff : analysis.parent = none ↔ current ∈ analysis.tokens
  /-- No other token at top level has the leaf among its parts. -/
  parent_some_iff : ∀ composite, analysis.parent = some composite ↔
    composite ∈ analysis.tokens ∧ current ∈ composite.children

section Tiling

variable {text : Text} {tokens : List Token} {top : Token} {cursor : Nat}

/-- A token with parts has them tile it. -/
theorem tiles_children (h : Tiling text tokens) {token part : Token}
    (hMem : token ∈ tokens) (hPart : part ∈ token.children) :
    (∀ other ∈ token.children, other.children = []) ∧
      Tiles text token.start token.children (token.stop + 1) := by
  have hHasParts := h.hasParts token hMem
  cases hKind : token.kind.isComposite with
  | false =>
      rw [hHasParts.of_leaf hKind] at hPart
      cases hPart
  | true =>
      obtain ⟨_, hChildless, hTiles, _⟩ := hHasParts.of_composite hKind
      exact ⟨hChildless, hTiles⟩

/-- A composite is at a cursor where one of its parts is. -/
theorem eq_top_of_part (h : Tiling text tokens)
    (hTop : tokens.filter (·.isAt cursor) = [top]) {composite part : Token}
    (hMem : composite ∈ tokens) (hPart : part ∈ composite.children)
    (hAt : part.isAt cursor = true) : composite = top := by
  have hBounds := (tiles_children h hMem hPart).2.bounds part hPart
  rw [Token.isAt_iff] at hAt
  exact (only_iff hTop composite).mp
    ⟨hMem, Token.isAt_iff.mpr ⟨by omega, by omega⟩⟩

/-- A leaf at a cursor is the only one there. -/
theorem only_leaf_of_mem (h : Tiling text tokens) (hText : text ≠ [])
    (hCursor : cursor ≤ text.length) {current : Token}
    (hMem : current ∈ Token.leavesOf tokens) (hAt : current.isAt cursor = true) :
    (Token.leavesOf tokens).filter (·.isAt cursor) = [current] := by
  have hPos := List.length_pos_iff.mpr hText
  obtain ⟨leaf, hLeaf⟩ := (h.tiles.leavesOf h.hasParts).exists_filter_isAt
    cursor (by omega) (by omega)
  rw [hLeaf, (only_iff hLeaf current).mp ⟨hMem, hAt⟩]

section Located

variable (h : Tiling text tokens) (hText : text ≠ [])
  (hCursor : cursor ≤ text.length)
  (hTop : tokens.filter (·.isAt cursor) = [top])

include h hText hCursor hTop

/-- The token at top level that the cursor is at has no parts. -/
private theorem located_top (site : CompletionSite)
    (hChildless : top.children = []) :
    Located ⟨cursor, tokens, some top, none, site⟩ top := by
  obtain ⟨hMem, hAt⟩ := (only_iff hTop top).mpr rfl
  refine ⟨rfl, hChildless, ?_, by simpa using hMem, ?_⟩
  · refine only_leaf_of_mem h hText hCursor ?_ hAt
    refine Token.mem_leavesOf.mpr ⟨top, hMem, ?_⟩
    rw [Token.leaves_of_childless hChildless]
    exact List.mem_singleton_self top
  · intro composite
    constructor
    · intro hNone
      cases hNone
    · rintro ⟨hComposite, hPart⟩
      rw [eq_top_of_part h hTop hComposite hPart hAt, hChildless] at hPart
      cases hPart

/-- It has parts, and the cursor is at one of them. -/
private theorem located_part (site : CompletionSite) {part : Token}
    (hPart : part ∈ top.children) (hAt : part.isAt cursor = true) :
    Located ⟨cursor, tokens, some part, some top, site⟩ part := by
  obtain ⟨hMem, _⟩ := (only_iff hTop top).mpr rfl
  have hLeaves := (tiles_children h hMem hPart).1
  have hParts : top.children ≠ [] := List.ne_nil_of_mem hPart
  refine ⟨rfl, hLeaves part hPart, ?_, ?_, ?_⟩
  · refine only_leaf_of_mem h hText hCursor ?_ hAt
    refine Token.mem_leavesOf.mpr ⟨top, hMem, ?_⟩
    rw [Token.leaves_of_parts hParts, Token.leavesOf_of_childless hLeaves]
    exact hPart
  · constructor
    · intro hNone
      cases hNone
    · intro hTopLevel
      have hSame := (only_iff hTop part).mp ⟨hTopLevel, hAt⟩
      exact absurd (hSame ▸ hLeaves part hPart) hParts
  · intro composite
    constructor
    · intro hSome
      cases hSome
      exact ⟨hMem, hPart⟩
    · rintro ⟨hComposite, hIn⟩
      rw [eq_top_of_part h hTop hComposite hIn hAt]

end Located

/-- **The descent ends at the one leaf the cursor is at.** -/
theorem exists_located (h : Tiling text tokens) (hText : text ≠ [])
    (hCursor : cursor ≤ text.length) :
    ∃ current parent, locate tokens cursor = some (current, parent) ∧
      Located ⟨cursor, tokens, some current, parent,
        siteOf current parent cursor⟩ current := by
  have hPos := List.length_pos_iff.mpr hText
  obtain ⟨top, hTop⟩ :=
    h.tiles.exists_filter_isAt cursor (by omega) (by omega)
  have hFound := touching_of_filter hTop
  by_cases hChildless : top.children = []
  · refine ⟨top, none, ?_, located_top h hText hCursor hTop _ hChildless⟩
    rw [locate, hFound, Option.map_some, descend_childless none hChildless]
  · obtain ⟨hMem, hAt⟩ := (only_iff hTop top).mpr rfl
    obtain ⟨first, hFirst⟩ := List.exists_mem_of_ne_nil _ hChildless
    obtain ⟨hLeaves, hTiles⟩ := tiles_children h hMem hFirst
    have hHere := Token.isAt_iff.mp hAt
    obtain ⟨part, hOnly⟩ :=
      hTiles.exists_filter_isAt cursor hHere.1 (by omega)
    obtain ⟨hPart, hPartAt⟩ := (only_iff hOnly part).mpr rfl
    refine ⟨part, some top, ?_,
      located_part h hText hCursor hTop _ hPart hPartAt⟩
    rw [locate, hFound, Option.map_some,
      descend_part none (touching_of_filter hOnly),
      descend_childless (some top) (hLeaves part hPart)]

end Tiling

end Analysis

/-! ## Analyses of texts -/

namespace Lexer

variable (units : List GrammarUnit) (text : Text) (cursor : Nat)

/-- The analysis of a text that is not empty. -/
theorem exists_analyze_eq (hText : text ≠ []) :
    ∃ current parent,
      ((Lexer.mk units).analyze text cursor).1 =
        ⟨min cursor text.length, (Lexer.mk units).tokens text, some current,
          parent, Analysis.siteOf current parent (min cursor text.length)⟩ ∧
      Analysis.Located ((Lexer.mk units).analyze text cursor).1 current := by
  obtain ⟨current, parent, hLocate, hLocated⟩ :=
    Analysis.exists_located (tokens_tile units text) hText
      (Nat.min_le_right cursor text.length)
  have hAnalysis : ((Lexer.mk units).analyze text cursor).1 =
      ⟨min cursor text.length, (Lexer.mk units).tokens text, some current,
        parent, Analysis.siteOf current parent (min cursor text.length)⟩ := by
    show Analysis.ofTokens ((Lexer.mk units).tokens text) _ = _
    rw [Analysis.ofTokens, hLocate]
  exact ⟨current, parent, hAnalysis, hAnalysis ▸ hLocated⟩

/-- **The leaf at the cursor.** Whatever the units and their order, an analysis
counts a cursor past the end as one at the end. In the empty text it finds
nothing. In any other text it finds the one leaf that has the character left of
the cursor, or that the text begins with if the cursor is at its start; the
parent is the composite that the leaf is a part of, and there is none just when
the leaf is at top level. -/
theorem analyze_located :
    ((Lexer.mk units).analyze text cursor).1.cursor = min cursor text.length ∧
      ((Lexer.mk units).analyze text cursor).1.tokens =
        (Lexer.mk units).tokens text ∧
      ((text = [] ∧ ((Lexer.mk units).analyze text cursor).1.current = none ∧
          ((Lexer.mk units).analyze text cursor).1.parent = none) ∨
        (text ≠ [] ∧ ∃ current,
          ((Lexer.mk units).analyze text cursor).1.Located current)) := by
  by_cases hText : text = []
  · subst hText
    exact ⟨rfl, rfl, Or.inl ⟨rfl, rfl, rfl⟩⟩
  · obtain ⟨current, parent, hAnalysis, hLocated⟩ :=
      exists_analyze_eq units text cursor hText
    refine ⟨?_, ?_, Or.inr ⟨hText, current, hLocated⟩⟩
    · rw [hAnalysis]
    · rw [hAnalysis]

end Lexer

end QueryPhrase
