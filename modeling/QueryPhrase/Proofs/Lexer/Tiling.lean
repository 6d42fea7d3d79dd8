import QueryPhrase.Proofs.Lexer.Reading
import QueryPhrase.Proofs.Recognizer.Run

/-!
# Tokens tile the text

Tokens are never lost and never overlap, whatever the units and their order:
each begins where the one before it ended, the first at the start of the text
and the last at its end, and each holds exactly the characters it stands on. A
composite token is tiled by its parts in the same way.

The argument goes by pieces of the text. The active unit holds the pending run,
so a token it has for the run spans the run (`offer_fits`), and the token that
closes the text does too (`closing_fits`). Field terms and matcher triples cut
their run into groups; both hand out the groups by `MatcherTriple.leaves`, so
one lemma, `tiles_leaves`, covers the parts of either.

## Main definitions

* `Tiling` — tokens that cover a text from end to end.
* `Lexer.Pieces` — the tokens of a text that is cut into pieces.

## Main results

* `Lexer.tokens_tile` — the tokens of a text tile it, parts included.
-/

namespace QueryPhrase

/-! ## What tiling means -/

/-- The token has at least one character, and its value is what the text holds
from its start to its stop. -/
structure Token.Covers (text : Text) (token : Token) : Prop where
  length_pos : 1 ≤ token.length
  /-- The stop is the offset of the last character of the value. -/
  stop_eq : token.stop = token.start + token.value.length - 1
  /-- The value stands in the text where the offsets say. -/
  value_eq : token.value =
    (text.drop token.start).take (token.stop + 1 - token.start)
  value_ne_nil : token.value ≠ []

theorem Token.Covers.start_le_stop {text : Text} {token : Token}
    (h : token.Covers text) : token.start ≤ token.stop := by
  have hPos := List.length_pos_iff.mpr h.value_ne_nil
  rw [h.stop_eq]
  omega

/-- The tokens cover the text from one offset up to another, each beginning
right after the one before it. -/
inductive Tiles (text : Text) : Nat → List Token → Nat → Prop
  | nil (offset : Nat) : Tiles text offset [] offset
  /-- The first token begins at the offset, and the others go on after its stop.
  -/
  | cons {low high : Nat} {token : Token} {rest : List Token} :
    token.start = low → token.Covers text →
      Tiles text (token.stop + 1) rest high →
        Tiles text low (token :: rest) high

/-- A composite token is tiled by its parts, which have no parts of their own;
any other token has no parts. -/
structure Token.HasParts (text : Text) (token : Token) : Prop where
  of_composite : token.kind.isComposite = true →
    token.children ≠ [] ∧ (∀ part ∈ token.children, part.children = []) ∧
      Tiles text token.start token.children (token.stop + 1) ∧
      Token.textOf token.children = token.value
  of_leaf : token.kind.isComposite = false → token.children = []

/-- The tokens tile the whole text, each with its parts, and their values one
after the other are the text. -/
structure Tiling (text : Text) (tokens : List Token) : Prop where
  tiles : Tiles text 0 tokens text.length
  hasParts : ∀ token ∈ tokens, token.HasParts text
  textOf_eq : Token.textOf tokens = text

/-! ## Tokens over a stretch -/

/-- The token stands at `start` and its value is `run`. -/
structure Token.Spans (token : Token) (start : Nat) (run : Text) : Prop where
  start_eq : token.start = start
  value_eq : token.value = run
  /-- Where the next token begins. -/
  next_eq : token.stop + 1 = start + run.length

theorem Token.Spans.covers {token : Token} {before run : Text} (rest : Text)
    (h : token.Spans before.length run) (hRun : run ≠ []) :
    token.Covers (before ++ run ++ rest) := by
  have hPos : 0 < run.length := List.length_pos_iff.mpr hRun
  have hNext := h.next_eq
  have hLength : token.stop + 1 - token.start = run.length := by
    rw [hNext, h.start_eq]
    omega
  refine ⟨?_, ?_, ?_, ?_⟩
  · rw [Token.length, hLength]
    exact hPos
  · rw [h.start_eq, h.value_eq]
    omega
  · rw [hLength, h.start_eq, h.value_eq, List.append_assoc, List.drop_left,
      List.take_left]
  · rw [h.value_eq]
    exact hRun

section Offsets

variable {token : Token} {before run : Text}

/-- The offsets of a token cut the text at either end of its run. -/
theorem Token.Spans.take_start (h : token.Spans before.length run)
    (rest : Text) : (before ++ (run ++ rest)).take token.start = before := by
  rw [h.start_eq, List.take_left]

theorem Token.Spans.drop_start (h : token.Spans before.length run)
    (rest : Text) : (before ++ (run ++ rest)).drop token.start = run ++ rest := by
  rw [h.start_eq, List.drop_left]

theorem Token.Spans.drop_stop (h : token.Spans before.length run)
    (rest : Text) : (before ++ (run ++ rest)).drop (token.stop + 1) = rest := by
  rw [h.next_eq, ← List.append_assoc, ← List.length_append, List.drop_left]

end Offsets

theorem Token.spans_leaf (kind : TokenKind) (start : Nat) {run : Text}
    (hRun : run ≠ []) : (Token.leaf kind run start).Spans start run := by
  have hPos : 0 < run.length := List.length_pos_iff.mpr hRun
  refine ⟨rfl, rfl, ?_⟩
  change start + (run.length - 1) + 1 = start + run.length
  omega

theorem Token.hasParts_leaf (text : Text) {kind : TokenKind}
    (hKind : kind.isComposite = false) (run : Text) (start : Nat) :
    (Token.leaf kind run start).HasParts text := by
  refine ⟨?_, fun _ => rfl⟩
  intro hComposite
  exact absurd (hComposite.symm.trans hKind) (by decide)

/-! ## Tilings -/

namespace Tiles

variable {text : Text} {low high : Nat} {tokens : List Token}

theorem low_le_high (h : Tiles text low tokens high) : low ≤ high := by
  induction h with
  | nil offset => exact Nat.le_refl offset
  | cons hStart hCovers _ ih =>
      have hStop := hCovers.start_le_stop
      omega

/-- Tokens that tile a stretch hold its text. -/
theorem textOf_eq (h : Tiles text low tokens high) :
    Token.textOf tokens = (text.drop low).take (high - low) := by
  induction h with
  | nil offset => simp [Token.textOf]
  | @cons low high token rest hStart hCovers hRest ih =>
      have hLow := hCovers.start_le_stop
      have hHigh := hRest.low_le_high
      have hSplit : high - low =
          (token.stop + 1 - token.start) + (high - (token.stop + 1)) := by
        omega
      have hDrop : token.start + (token.stop + 1 - token.start) =
          token.stop + 1 := by omega
      calc Token.textOf (token :: rest)
          = token.value ++ Token.textOf rest := rfl
        _ = (text.drop low).take (token.stop + 1 - token.start) ++
              (text.drop (token.stop + 1)).take (high - (token.stop + 1)) := by
            rw [ih, ← hStart]
            exact congrArg (· ++ _) hCovers.value_eq
        _ = (text.drop low).take (high - low) := by
            rw [hSplit, List.take_add, List.drop_drop, ← hStart, hDrop]

theorem head?_start (h : Tiles text low tokens high) {token : Token}
    (hHead : tokens.head? = some token) : token.start = low := by
  cases h with
  | nil => cases hHead
  | cons hStart _ _ => cases hHead; exact hStart

theorem getLast?_stop (h : Tiles text low tokens high) {token : Token}
    (hLast : tokens.getLast? = some token) : token.stop + 1 = high := by
  induction h with
  | nil => cases hLast
  | cons _ _ hRest ih =>
      cases hRest with
      | nil => cases hLast; rfl
      | cons hStart hCovers hRest =>
          rw [List.getLast?_cons_cons] at hLast
          exact ih hLast

end Tiles

/-- Parts that tile a stretch make a composite token that spans it. -/
theorem Token.composite_fits {text : Text} {low high : Nat} {kind : TokenKind}
    {parts : List Token} {token : Token} (hKind : kind.isComposite = true)
    (hTiles : Tiles text low parts high)
    (hLeaves : ∀ part ∈ parts, part.children = [])
    (hToken : Token.composite kind parts = some token) :
    token.start = low ∧ token.stop + 1 = high ∧
      token.value = Token.textOf parts ∧ token.HasParts text := by
  unfold Token.composite at hToken
  split at hToken
  · next first last hFirst hLast =>
      have hStart := hTiles.head?_start hFirst
      have hStop := hTiles.getLast?_stop hLast
      have hParts : parts ≠ [] := by
        rintro rfl
        cases hFirst
      cases hToken
      refine ⟨hStart, hStop, rfl, ?_, ?_⟩
      · intro _
        refine ⟨hParts, hLeaves, ?_, rfl⟩
        rw [hStart, hStop]
        exact hTiles
      · intro hLeaf
        exact absurd (hKind.symm.trans hLeaf) (by decide)
  · cases hToken

/-! ## Groups of a run -/

section Groups

open MatcherTriple

theorem children_of_mem_leaves (groups : List (TokenKind × Text)) :
    ∀ (start : Nat), ∀ part ∈ leaves groups start, part.children = [] := by
  induction groups with
  | nil => intro start part hPart; cases hPart
  | cons group groups ih =>
      obtain ⟨kind, piece⟩ := group
      intro start part hPart
      rw [leaves] at hPart
      by_cases hPiece : piece = []
      · rw [if_pos hPiece] at hPart
        exact ih start part hPart
      · rw [if_neg hPiece] at hPart
        cases hPart with
        | head => rfl
        | tail _ hTail => exact ih _ part hTail

/-- Groups that follow one another in the text give leaves that tile it. -/
theorem tiles_leaves (rest : Text) (groups : List (TokenKind × Text)) :
    ∀ before : Text,
      Tiles (before ++ groups.flatMap Prod.snd ++ rest) before.length
        (leaves groups before.length)
        (before.length + (groups.flatMap Prod.snd).length) := by
  induction groups with
  | nil => intro before; exact Tiles.nil _
  | cons group groups ih =>
      obtain ⟨kind, piece⟩ := group
      intro before
      have hStep := ih (before ++ piece)
      have hText : before ++ piece ++ groups.flatMap Prod.snd ++ rest =
          before ++ ((kind, piece) :: groups).flatMap Prod.snd ++ rest := by
        simp
      have hHigh : (before ++ piece).length +
            (groups.flatMap Prod.snd).length =
          before.length +
            (((kind, piece) :: groups).flatMap Prod.snd).length := by
        simp [Nat.add_assoc]
      rw [hText, hHigh] at hStep
      rw [leaves]
      by_cases hPiece : piece = []
      · rw [if_pos hPiece]
        simpa [hPiece] using hStep
      · rw [if_neg hPiece]
        have hSpans := Token.spans_leaf kind before.length hPiece
        refine Tiles.cons rfl ?_ ?_
        · have hCovers := hSpans.covers (groups.flatMap Prod.snd ++ rest) hPiece
          simpa using hCovers
        · rw [hSpans.next_eq, ← List.length_append]
          exact hStep

/-- The six groups of a span are the span. -/
theorem flatMap_groups (text : Text) :
    (groups text).flatMap Prod.snd = text := by
  have hValue : ∀ part : Text,
      (part.reverse.dropWhile isBlank).reverse ++
        part.drop (part.reverse.dropWhile isBlank).reverse.length = part := by
    intro part
    have hReverse : part = (part.reverse.dropWhile isBlank).reverse ++
        (part.reverse.takeWhile isBlank).reverse := by
      rw [← List.reverse_append, List.takeWhile_append_dropWhile,
        List.reverse_reverse]
    have hDrop := congrArg
      (List.drop (part.reverse.dropWhile isBlank).reverse.length) hReverse
    rw [List.drop_left] at hDrop
    rw [hDrop]
    exact hReverse.symm
  simp only [groups, List.flatMap_cons, List.flatMap_nil, List.append_nil,
    hValue, List.takeWhile_append_dropWhile]

end Groups

/-! ## What one unit emits -/

/-- The token spans the run, with its parts. -/
structure Token.Fits (before run rest : Text) (token : Token) : Prop where
  spans : token.Spans before.length run
  hasParts : token.HasParts (before ++ run ++ rest)

namespace GrammarUnit

variable {before run rest : Text}

/-- Groups of the run make a composite token that spans the run. -/
private theorem composite_leaves_fits {kind : TokenKind}
    (hKind : kind.isComposite = true) {groups : List (TokenKind × Text)}
    (hGroups : groups.flatMap Prod.snd = run) {token : Token}
    (hToken : Token.composite kind
      (MatcherTriple.leaves groups before.length) = some token) :
    token.Fits before run rest := by
  have hTiles := tiles_leaves rest groups before
  rw [hGroups] at hTiles
  have hLeaves := children_of_mem_leaves groups before.length
  obtain ⟨hStart, hStop, hValue, hParts⟩ :=
    Token.composite_fits hKind hTiles hLeaves hToken
  refine ⟨⟨hStart, ?_, hStop⟩, hParts⟩
  rw [hValue, hTiles.textOf_eq, Nat.add_sub_cancel_left, List.append_assoc,
    List.drop_left, List.take_left]

/-- A unit that judges its buffer as a whole emits the run as one leaf. -/
private theorem buffer_fits {kind : TokenKind}
    (hKind : kind.isComposite = false) {token : Token}
    (hToken : (TokenBuffer.ofText before.length run).token? kind =
      some token) : token.Fits before run rest := by
  rw [TokenBuffer.token?_ofText] at hToken
  by_cases hRun : run = []
  · rw [if_pos hRun] at hToken
    cases hToken
  · rw [if_neg hRun] at hToken
    cases hToken
    exact ⟨Token.spans_leaf kind before.length hRun,
      Token.hasParts_leaf _ hKind run before.length⟩

private theorem field_fits {token : Token}
    (hToken : (FieldTerm.read before.length run).token?
      (.between before run rest) = some token) :
    token.Fits before run rest := by
  obtain ⟨hComplete, hToken⟩ := Option.ite_none_right_eq_some.mp hToken
  by_cases hColon : ':' ∈ run
  · obtain ⟨name, after, hRun, hName⟩ := List.eq_append_cons_of_mem hColon
    subst hRun
    cases after with
    | nil =>
        rw [FieldTerm.children_read_colon hName] at hToken
        exact composite_leaves_fits rfl (by simp) hToken
    | cons c text =>
        rw [FieldTerm.children_read_value hName] at hToken
        exact composite_leaves_fits rfl (by simp) hToken
  · rw [FieldTerm.read_of_not_mem hColon] at hComplete
    cases hComplete

private theorem matcher_fits {token : Token}
    (hToken : (MatcherTriple.read before.length run).token?
      (.between before run rest) = some token) :
    token.Fits before run rest := by
  obtain ⟨_, hToken⟩ := Option.ite_none_right_eq_some.mp hToken
  rw [MatcherTriple.read_eq] at hToken
  exact composite_leaves_fits rfl (flatMap_groups run) hToken

/-- **A unit that holds the run emits the run.** -/
theorem fits_of_token? (unit : GrammarUnit) {token : Token}
    (hToken : (Recognizer.seeded unit before.length run).token?
      (.between before run rest) = some token) :
    token.Fits before run rest := by
  cases unit with
  | word buffer =>
      rw [seeded_word] at hToken
      exact buffer_fits rfl (Option.ite_none_right_eq_some.mp hToken).2
  | whitespace buffer =>
      rw [seeded_whitespace] at hToken
      exact buffer_fits rfl (Option.ite_none_right_eq_some.mp hToken).2
  | operator buffer =>
      rw [seeded_operator] at hToken
      exact buffer_fits rfl (Option.ite_none_right_eq_some.mp hToken).2
  | separator buffer =>
      rw [seeded_separator] at hToken
      exact buffer_fits rfl (Option.ite_none_right_eq_some.mp hToken).2
  | field term =>
      rw [seeded_field] at hToken
      exact field_fits hToken
  | matcher triple =>
      rw [seeded_matcher] at hToken
      exact matcher_fits hToken

end GrammarUnit

/-! ## Texts cut into pieces -/

namespace Lexer

/-- The tokens of the rest of a text that is cut into pieces. A piece is a run
between what is before it and the rest, with its token. -/
inductive Pieces (piece : Text → Text → Text → Token → Prop) :
    Text → Text → List Token → Prop
  | nil (before : Text) : Pieces piece before [] []
  | cons {before run rest : Text} {token : Token} {tokens : List Token} :
    piece before run rest token → Pieces piece (before ++ run) rest tokens →
      Pieces piece before (run ++ rest) (token :: tokens)

/-- Where a token of a text cut into pieces stands. -/
theorem Pieces.at_token {piece : Text → Text → Text → Token → Prop}
    {before text : Text} {token : Token} {front back : List Token}
    (h : Pieces piece before text (front ++ token :: back)) :
    ∃ seen run rest, text = seen ++ (run ++ rest) ∧
      piece (before ++ seen) run rest token ∧
        Pieces piece (before ++ seen ++ run) rest back := by
  induction front generalizing before text with
  | nil =>
      cases h with
      | cons hPiece hBack =>
          refine ⟨[], _, _, rfl, ?_, ?_⟩
          · rw [List.append_nil]
            exact hPiece
          · rw [List.append_nil]
            exact hBack
  | cons first front ih =>
      cases h with
      | @cons _ run _ _ _ _ hOthers =>
          obtain ⟨seen, run', rest', hText, hPiece, hBack⟩ := ih hOthers
          refine ⟨run ++ seen, run', rest', by rw [hText, List.append_assoc],
            ?_, ?_⟩
          · rw [← List.append_assoc]
            exact hPiece
          · rw [← List.append_assoc before]
            exact hBack

end Lexer

/-! ## The whole text -/

namespace Lexer

variable {units : List GrammarUnit} {before run : Text}

theorem offer_fits {rest : Text} {index : Nat} {token : Token}
    (hToken : offer units (.between before run rest) index = some token) :
    token.Fits before run rest := by
  obtain ⟨unit, _, hUnit⟩ := Option.bind_eq_some_iff.mp hToken
  rw [Scanner.start_between, Scanner.run_between] at hUnit
  exact GrammarUnit.fits_of_token? unit hUnit

/-- Even when every unit declines, the token that closes the text spans the run.
-/
theorem closing_fits (active : Nat) (hRun : run ≠ []) :
    (closing units (.between before run []) active).Fits before run [] := by
  rw [closing]
  cases hFound : (active :: (List.range units.length).filter
      (· != active)).findSome? (offer units (.between before run [])) with
  | some token =>
      obtain ⟨index, _, hOffer⟩ := List.exists_of_findSome?_eq_some hFound
      exact offer_fits hOffer
  | none =>
      rw [Option.getD_none, Scanner.run_between, Scanner.start_between]
      exact ⟨Token.spans_leaf .word before.length hRun,
        Token.hasParts_leaf _ rfl run before.length⟩

/-- The tokens of the rest of a text tile everything from the start of the
pending run on. A run is pending exactly while a unit is active. -/
theorem reading_tiles (units : List GrammarUnit) (rest : Text) :
    ∀ (before run : Text) (active : Option Nat),
      (active = none ↔ run = []) →
        Tiles (before ++ run ++ rest) before.length
            (reading units before run active rest)
            (before ++ run ++ rest).length ∧
          ∀ token ∈ reading units before run active rest,
            token.HasParts (before ++ run ++ rest) := by
  induction rest with
  | nil =>
      intro before run active hActive
      cases active with
      | none =>
          have hRun : run = [] := hActive.mp rfl
          subst hRun
          simp only [reading, List.append_nil]
          exact ⟨Tiles.nil _, by simp⟩
      | some index =>
          have hRun : run ≠ [] := fun hNil => by
            cases hActive.mpr hNil
          have hFits : (closing units (.between before run []) index).Fits
              before run [] := closing_fits index hRun
          simp only [reading, List.mem_singleton, forall_eq]
          refine ⟨Tiles.cons hFits.spans.start_eq
            (hFits.spans.covers [] hRun) ?_, hFits.hasParts⟩
          rw [hFits.spans.next_eq]
          simpa using (Tiles.nil _ : Tiles (before ++ run)
            (before.length + run.length) [] _)
  | cons c rest ih =>
      intro before run active _
      have hText : before ++ run ++ c :: rest =
          before ++ (run ++ [c]) ++ rest := by simp
      have hRun : run ++ [c] ≠ [] := by simp
      rw [hText, reading]
      split
      · next token hToken =>
          have hFits := offer_fits hToken
          have hRest := ih (before ++ (run ++ [c])) [] none (by simp)
          rw [List.append_nil] at hRest
          refine ⟨Tiles.cons hFits.spans.start_eq
            (hFits.spans.covers rest hRun) ?_, ?_⟩
          · rw [hFits.spans.next_eq, ← List.length_append]
            exact hRest.1
          · intro other hOther
            cases hOther with
            | head => exact hFits.hasParts
            | tail _ hTail => exact hRest.2 other hTail
      · exact ih before (run ++ [c]) _ (by simp)

/-- **Tokens tile the text.** For whatever units in whatever order, and whatever
they hold beforehand, the tokens of a text cover it from its first character to
its last without gap or overlap, the parts of a composite token cover the token
in the same way, and the values one after the other give the text back. -/
theorem tokens_tile (units : List GrammarUnit) (text : Text) :
    Tiling text ((Lexer.mk units).tokens text) := by
  rw [tokens_eq_reading]
  obtain ⟨hTiles, hParts⟩ := reading_tiles units text [] [] none (by simp)
  refine ⟨hTiles, hParts, ?_⟩
  have hValue := hTiles.textOf_eq
  simpa using hValue

end Lexer

end QueryPhrase
