import QueryPhrase.Grammar
import QueryPhrase.Proofs.Lexer.Cut
import QueryPhrase.Proofs.Lexer.Tiling

/-!
# The rest of a text on its own

Between two tokens a text can be cut in two: the tokens behind the cut are those
of the second part on its own, moved along by the length of the first.

A unit holds offsets only to hand them on, so its token moves with the place at
which the run starts. What is before the run is looked at by one unit only, that
of the connectives, which asks whether a word may begin there. A word may begin
behind blanks, and no word can begin where the rest is over or starts with a
blank. Every unit but that of field terms ends its token at such a place, and no
grammar has both of these units.

## Main definitions

* `Token.shift` — a token further along in a text, its parts with it.
* `Lexer.Seam` — a place where nothing depends on what is before it.

## Main results

* `Lexer.offer_shift` — what a unit has for a run moves with the run.
* `Lexer.reading_shift` — at a seam the rest of a text is read as on its own.
* `Lexer.reading_split` — every token begins at a seam.
* `Lexer.tokens_suffix` — the tokens from a boundary on.
-/

namespace QueryPhrase

/-! ## Tokens further along -/

mutual

/-- The token so many characters further along. Its parts move with it. -/
def Token.shift (distance : Nat) : Token → Token
  | ⟨kind, value, start, stop, children⟩ =>
    ⟨kind, value, start + distance, stop + distance,
      Token.shiftAll distance children⟩

/-- All the tokens further along. -/
def Token.shiftAll (distance : Nat) : List Token → List Token
  | [] => []
  | token :: rest => token.shift distance :: Token.shiftAll distance rest

end

namespace Token

variable {distance : Nat}

theorem shiftAll_eq_map (tokens : List Token) :
    shiftAll distance tokens = tokens.map (shift distance) := by
  induction tokens with
  | nil => rfl
  | cons token rest ih => rw [shiftAll, ih, List.map_cons]

/-- Kind and value stay, and everything else moves. -/
theorem shift_eq (token : Token) :
    token.shift distance = ⟨token.kind, token.value, token.start + distance,
      token.stop + distance, token.children.map (shift distance)⟩ := by
  cases token
  rw [shift, shiftAll_eq_map]

mutual

/-- One distance after the other. -/
theorem shift_shift (first second : Nat) : ∀ token : Token,
    (token.shift first).shift second = token.shift (first + second)
  | ⟨kind, value, start, stop, children⟩ => by
    rw [shift, shift, shift, shiftAll_shiftAll first second children,
      Nat.add_assoc, Nat.add_assoc]

theorem shiftAll_shiftAll (first second : Nat) : ∀ tokens : List Token,
    shiftAll second (shiftAll first tokens) = shiftAll (first + second) tokens
  | [] => rfl
  | token :: rest => by
    rw [shiftAll, shiftAll, shiftAll, shift_shift first second token,
      shiftAll_shiftAll first second rest]

end

theorem shift_leaf (kind : TokenKind) (value : Text) (start : Nat) :
    (leaf kind value start).shift distance =
      leaf kind value (start + distance) := by
  have hStop : start + (value.length - 1) + distance =
      start + distance + (value.length - 1) := by omega
  rw [shift_eq, leaf, leaf, hStop]
  rfl

theorem composite_shift (kind : TokenKind) (parts : List Token) :
    composite kind (parts.map (shift distance)) =
      (composite kind parts).map (shift distance) := by
  have hValue : (parts.map (shift distance)).flatMap value =
      parts.flatMap value := by
    simp only [List.flatMap_map, shift_eq]
  rw [composite, composite, List.head?_map, List.getLast?_map, hValue]
  cases parts.head? with
  | none => rfl
  | some first =>
      cases parts.getLast? with
      | none => rfl
      | some last => simp only [Option.map_some, shift_eq]

end Token

theorem MatcherTriple.leaves_shift {distance : Nat}
    (groups : List (TokenKind × Text)) :
    ∀ start : Nat, leaves groups (start + distance) =
      (leaves groups start).map (Token.shift distance) := by
  induction groups with
  | nil => exact fun _ => rfl
  | cons group groups ih =>
      obtain ⟨kind, piece⟩ := group
      intro start
      have hNext : start + distance + piece.length =
          start + piece.length + distance := by omega
      rw [leaves, leaves]
      by_cases hPiece : piece = []
      · rw [if_pos hPiece, if_pos hPiece, ih]
      · rw [if_neg hPiece, if_neg hPiece, hNext, ih, List.map_cons,
          Token.shift_leaf]

/-! ## What a unit has for a run -/

namespace GrammarUnit

variable {before run rest : Text}

/-- A unit that judges its buffer as a whole. -/
private theorem buffer_shift (before run : Text) (kind : TokenKind) :
    (TokenBuffer.ofText before.length run).token? kind =
      ((TokenBuffer.ofText 0 run).token? kind).map
        (Token.shift before.length) := by
  rw [TokenBuffer.token?_ofText, TokenBuffer.token?_ofText]
  by_cases hRun : run = []
  · rw [if_pos hRun, if_pos hRun]
    rfl
  · rw [if_neg hRun, if_neg hRun, Option.map_some, Token.shift_leaf,
      Nat.zero_add]

/-- Groups of the run make a composite token that moves with the run. -/
private theorem composite_leaves_shift (before : Text) (kind : TokenKind)
    (groups : List (TokenKind × Text)) :
    Token.composite kind (MatcherTriple.leaves groups before.length) =
      (Token.composite kind (MatcherTriple.leaves groups 0)).map
        (Token.shift before.length) := by
  rw [← Token.composite_shift, ← MatcherTriple.leaves_shift, Nat.zero_add]

/-- Whether a field term is whole does not depend on where it starts, and its
parts move with it. -/
private theorem read_shift (before run rest : Text) :
    (FieldTerm.read before.length run).complete (.between before run rest) =
        (FieldTerm.read 0 run).complete (.between [] run rest) ∧
      Token.composite .term (FieldTerm.read before.length run).children =
        (Token.composite .term (FieldTerm.read 0 run).children).map
          (Token.shift before.length) := by
  by_cases hColon : ':' ∈ run
  · obtain ⟨name, after, hRun, hName⟩ := List.eq_append_cons_of_mem hColon
    subst hRun
    cases after with
    | nil =>
        rw [FieldTerm.children_read_colon hName,
          FieldTerm.children_read_colon hName, FieldTerm.read_colon hName,
          FieldTerm.read_colon hName]
        refine ⟨?_, composite_leaves_shift before .term _⟩
        simp only [FieldTerm.complete, Scanner.atBoundary,
          Scanner.atEnd_between, Scanner.blankAhead_between]
    | cons c text =>
        rw [FieldTerm.children_read_value hName,
          FieldTerm.children_read_value hName, FieldTerm.read_value hName,
          FieldTerm.read_value hName]
        refine ⟨?_, composite_leaves_shift before .term _⟩
        simp only [FieldTerm.complete, FieldTerm.valueComplete,
          Scanner.atEnd_between, Scanner.blankAhead_between]
        rfl
  · rw [FieldTerm.children_read_of_not_mem hColon,
      FieldTerm.children_read_of_not_mem hColon,
      FieldTerm.read_of_not_mem hColon, FieldTerm.read_of_not_mem hColon]
    exact ⟨rfl, composite_leaves_shift before .term _⟩

/-- **What a unit has for a run** moves with the run. -/
theorem token?_shift (unit : GrammarUnit) (before run rest : Text) :
    (Recognizer.seeded unit before.length run).token?
        (.between before run rest) =
      ((Recognizer.seeded unit 0 run).token? (.between [] run rest)).map
        (Token.shift before.length) := by
  cases unit with
  | field _ =>
      obtain ⟨hComplete, hParts⟩ := read_shift before run rest
      simp only [seeded_field, token?, FieldTerm.token?, hComplete, hParts]
      rw [apply_ite (Option.map _), Option.map_none]
  | matcher _ =>
      simp only [seeded_matcher, token?, MatcherTriple.token?,
        MatcherTriple.read_eq, MatcherTriple.complete,
        TokenBuffer.isEmpty_ofText, Scanner.separatorAhead,
        Scanner.atEnd_between, Scanner.blankAhead_between,
        Scanner.rest_between]
      rw [apply_ite (Option.map _), Option.map_none]
      exact congrArg (fun token => ite _ token none)
        (composite_leaves_shift before .matcher (MatcherTriple.groups run))
  | word _ | whitespace _ | operator _ | separator _ =>
      simp only [seeded_word, seeded_whitespace, seeded_operator,
        seeded_separator, token?, Scanner.atBoundary, Scanner.atEnd_between,
        Scanner.blankAhead_between, buffer_shift before run]
      rw [apply_ite (Option.map _), Option.map_none]
      rfl

/-- The unit asks for what is before the run. -/
def LooksBack : GrammarUnit → Prop
  | .separator _ => True
  | _ => False

/-- The unit ends its token where a word is over or may begin. -/
def KeepsWords : GrammarUnit → Prop
  | .field _ => False
  | _ => True

/-- A unit that does not look back locks in the same way behind any text. -/
private theorem locks_of_not_looksBack {unit : GrammarUnit}
    (hUnit : ¬ LooksBack unit) (before run rest : Text) :
    unit.locks (.between before run rest) =
      unit.locks (.between [] run rest) := by
  cases unit with
  | separator _ => exact absurd trivial hUnit
  | _ =>
      simp only [locks, FieldTerm.locks, MatcherTriple.locks,
        Scanner.startsWithAny, Scanner.atBoundary, Scanner.run_between,
        Scanner.rest_between, Scanner.atEnd_between, Scanner.blankAhead_between]

/-- The connectives' unit does so where a word may begin, and where the run cannot
be one. -/
private theorem locks_separator {before run rest : Text} (hRun : run ≠ [])
    (hPlace : Text.StartsWord before ∨ Text.EndsWord (run ++ rest))
    (buffer : TokenBuffer) :
    (separator buffer).locks (.between before run rest) =
      (separator buffer).locks (.between [] run rest) := by
  simp only [locks, Scanner.run_between, Scanner.atBoundary,
    Scanner.atEnd_between, Scanner.blankAhead_between]
  by_cases hWord : Keyword.isSeparator run = true
  · have hSolid := Keyword.solid_of_isSeparator hWord
    have hBefore : Text.StartsWord before := by
      refine hPlace.resolve_right ?_
      rw [Text.endsWord_append hRun]
      rintro (hNone | hBlank)
      · exact hRun hNone
      · rw [Text.startsBlank_of_word hSolid] at hBlank
        cases hBlank
    rw [Lexer.separatorBehind_between hBefore hSolid,
      Lexer.separatorBehind_between (Or.inl rfl) hSolid]
  · rw [Bool.not_eq_true] at hWord
    rw [hWord]
    rfl

/-- Behind a token of such a unit a word may begin, unless none can. -/
private theorem KeepsWords.seam {unit : GrammarUnit} (hUnit : KeepsWords unit)
    {before run rest : Text} (hRun : run ≠ []) {token : Token}
    (hToken : (Recognizer.seeded unit before.length run).token?
      (.between before run rest) = some token) :
    Text.StartsWord (before ++ run) ∨ Text.EndsWord rest := by
  cases unit with
  | field _ => exact absurd hUnit id
  | matcher _ =>
      right
      rw [seeded_matcher] at hToken
      obtain ⟨hWhole, _⟩ := Option.ite_none_right_eq_some.mp hToken
      rw [Bool.and_eq_true, MatcherTriple.complete, Bool.or_eq_true,
        Bool.and_eq_true, Scanner.atEnd_between, List.isEmpty_iff] at hWhole
      refine hWhole.2.imp_right fun hValue => ?_
      exact (Lexer.separatorAhead_between.mp hValue.2).startsBlank
  | whitespace _ =>
      left
      rw [seeded_whitespace] at hToken
      obtain ⟨hBlank, _⟩ := Option.ite_none_right_eq_some.mp hToken
      rw [Bool.and_eq_true, List.all_eq_true] at hBlank
      exact Text.startsWord_of_blanks hRun hBlank.2
  | word _ =>
      right
      rw [seeded_word] at hToken
      obtain ⟨hEnd, _⟩ := Option.ite_none_right_eq_some.mp hToken
      rw [Bool.and_eq_true] at hEnd
      exact Lexer.atBoundary_between.mp hEnd.1
  | operator _ =>
      right
      rw [seeded_operator] at hToken
      obtain ⟨hEnd, _⟩ := Option.ite_none_right_eq_some.mp hToken
      rw [Bool.and_eq_true] at hEnd
      exact Lexer.atBoundary_between.mp hEnd.2
  | separator _ =>
      right
      rw [seeded_separator] at hToken
      obtain ⟨hEnd, _⟩ := Option.ite_none_right_eq_some.mp hToken
      rw [Bool.and_eq_true] at hEnd
      exact Lexer.atBoundary_between.mp hEnd.2

end GrammarUnit

/-! ## The whole text -/

namespace Lexer

open GrammarUnit

variable {units : List GrammarUnit} {before run rest : Text}

/-- What a unit has for a run moves with the run, whatever is in front. -/
theorem offer_shift (units : List GrammarUnit) (before run rest : Text)
    (index : Nat) :
    offer units (.between before run rest) index =
      (offer units (.between [] run rest) index).map
        (Token.shift before.length) := by
  rw [offer, offer, Option.map_bind]
  congr 1
  funext unit
  rw [Scanner.run_between, Scanner.run_between]
  exact token?_shift unit before run rest

theorem closing_shift (units : List GrammarUnit) (before run : Text)
    (active : Nat) :
    closing units (.between before run []) active =
      (closing units (.between [] run []) active).shift before.length := by
  have hOffer : offer units (.between before run []) =
      Option.map (Token.shift before.length) ∘
        offer units (.between [] run []) := by
    funext index
    exact offer_shift units before run [] index
  have hWord : Token.leaf .word run before.length =
      (Token.leaf .word run 0).shift before.length := by
    rw [Token.shift_leaf, Nat.zero_add]
  rw [closing, closing, hOffer, ← List.map_findSome?, Scanner.run_between,
    Scanner.run_between, Scanner.start_between, hWord, Option.getD_map]
  rfl

/-- The units in which nothing in front of a token matters to what comes next:
none looks back, or all end their tokens where a word is over or may begin. -/
def Composable (units : List GrammarUnit) : Prop :=
  (∀ unit ∈ units, ¬ LooksBack unit) ∨ ∀ unit ∈ units, KeepsWords unit

/-- A place where nothing depends on what is before it: no unit looks back, or a
word may begin, or none can. -/
def Seam (units : List GrammarUnit) (before rest : Text) : Prop :=
  (∀ unit ∈ units, ¬ LooksBack unit) ∨ Text.StartsWord before ∨
    Text.EndsWord rest

theorem composable_units (grammar : Grammar) : Composable grammar.units := by
  cases grammar with
  | word | field => exact Or.inl (by simp [Grammar.units, LooksBack])
  | matcher => exact Or.inr (by simp [Grammar.units, KeepsWords])

/-- **Every token ends at a seam.** -/
theorem Composable.seam (h : Composable units) (hRun : run ≠ []) {index : Nat}
    {token : Token}
    (hToken : offer units (.between before run rest) index = some token) :
    Seam units (before ++ run) rest := by
  refine h.imp_right fun hKeeps => ?_
  obtain ⟨unit, hUnit, hOffer⟩ := Option.bind_eq_some_iff.mp hToken
  rw [Scanner.start_between, Scanner.run_between] at hOffer
  exact KeepsWords.seam (hKeeps unit (List.mem_of_getElem? hUnit)) hRun hOffer

/-- At a seam the same unit reads the run as without the text in front. -/
theorem Seam.reader_eq (h : Seam units before (run ++ rest)) (hRun : run ≠ [])
    (active : Option Nat) :
    reader units (.between before run rest) active =
      reader units (.between [] run rest) active := by
  refine reader_congr (fun unit hUnit => ?_) active
  by_cases hLooks : LooksBack unit
  · have hPlace := h.resolve_left fun hNone => hNone unit hUnit hLooks
    cases unit with
    | separator buffer => exact locks_separator hRun hPlace buffer
    | _ => exact absurd hLooks id
  · exact locks_of_not_looksBack hLooks before run rest

/-- **At a seam the rest of a text is read as on its own**, and its tokens move
along by what is in front. -/
theorem reading_shift (hUnits : Composable units) (rest : Text) :
    ∀ (before run : Text) (active : Option Nat),
      Seam units before (run ++ rest) →
        reading units before run active rest =
          (reading units [] run active rest).map
            (Token.shift before.length) := by
  induction rest with
  | nil =>
      intro before run active _
      cases active with
      | none => rfl
      | some index =>
          rw [reading, reading, closing_shift]
          rfl
  | cons c rest ih =>
      intro before run active hSeam
      have hRun : run ++ [c] ≠ [] := by simp
      have hNext : run ++ c :: rest = (run ++ [c]) ++ rest := by simp
      rw [hNext] at hSeam
      rw [reading, reading, hSeam.reader_eq hRun, offer_shift]
      cases hOffer : offer units (.between [] (run ++ [c]) rest)
          (reader units (.between [] (run ++ [c]) rest) active) with
      | none => exact ih before (run ++ [c]) _ hSeam
      | some token =>
          -- Both runs end at a seam, so what follows is read alike behind them.
          have hFront := hUnits.seam hRun
            ((offer_shift units before (run ++ [c]) rest _).trans
              (congrArg (Option.map _) hOffer))
          have hRest := ih _ [] none (hUnits.seam hRun hOffer)
          simp only [Option.map_some, List.map_cons, ih _ [] none hFront, hRest,
            List.map_map]
          congr 2
          funext later
          rw [Function.comp_apply, Token.shift_shift, List.length_append,
            List.nil_append, Nat.add_comm]

/-- Every token begins at a seam, and it and those behind it are what is read of
the rest from there. -/
theorem reading_split (hUnits : Composable units) (rest : Text) :
    ∀ (before run : Text) (active : Option Nat) (front back : List Token)
      (token : Token), front ≠ [] →
        reading units before run active rest = front ++ token :: back →
        ∃ seen rest', before ++ run ++ rest = seen ++ rest' ∧
          Seam units seen rest' ∧
          token :: back = reading units seen [] none rest' := by
  induction rest with
  | nil =>
      intro before run active front back token hFront hTokens
      have hLength := congrArg List.length hTokens
      have hSome := List.length_pos_iff.mpr hFront
      rw [List.length_append, List.length_cons] at hLength
      cases active with
      | none =>
          rw [reading, List.length_nil] at hLength
          omega
      | some index =>
          rw [reading, List.length_singleton] at hLength
          omega
  | cons c rest ih =>
      intro before run active front back token hFront hTokens
      have hText : before ++ run ++ c :: rest =
          before ++ (run ++ [c]) ++ rest := by simp
      rw [hText]
      rw [reading] at hTokens
      cases hOffer : offer units (.between before (run ++ [c]) rest)
          (reader units (.between before (run ++ [c]) rest) active) with
      | none =>
          simp only [hOffer] at hTokens
          exact ih before (run ++ [c]) _ front back token hFront hTokens
      | some first =>
          simp only [hOffer] at hTokens
          obtain ⟨other, others, hCons⟩ := List.exists_cons_of_ne_nil hFront
          rw [hCons, List.cons_append, List.cons.injEq] at hTokens
          by_cases hOthers : others = []
          · rw [hOthers, List.nil_append] at hTokens
            exact ⟨before ++ (run ++ [c]), rest, rfl,
              hUnits.seam (by simp) hOffer, hTokens.2.symm⟩
          · have hLater := ih (before ++ (run ++ [c])) [] none others back token
              hOthers hTokens.2
            rw [List.append_nil] at hLater
            exact hLater

/-- **The tokens from a boundary on** are those of the text from there, with every
offset moved along. -/
theorem tokens_suffix (grammar : Grammar) {text : Text}
    {front back : List Token} {token : Token}
    (h : grammar.tokens text = front ++ token :: back) :
    token :: back = (grammar.tokens (text.drop token.start)).map
      (Token.shift token.start) := by
  obtain ⟨seen, rest, hText, hSeam, hBack⟩ : ∃ seen rest, text = seen ++ rest ∧
      Seam grammar.units seen rest ∧
      token :: back = reading grammar.units seen [] none rest := by
    rw [Grammar.tokens, Grammar.lexer, tokens_eq_reading] at h
    by_cases hFront : front = []
    · subst hFront
      exact ⟨[], text, rfl, Or.inr (Or.inl (Or.inl rfl)), h.symm⟩
    · exact reading_split (composable_units grammar) text [] [] none front back
        token hFront h
  have hStart : token.start = seen.length := by
    have hTiles := (reading_tiles grammar.units rest seen [] none (by simp)).1
    rw [← hBack] at hTiles
    exact hTiles.head?_start rfl
  rw [hStart, hText, List.drop_left, hBack, Grammar.tokens, Grammar.lexer,
    tokens_eq_reading]
  exact reading_shift (composable_units grammar) rest seen [] none hSeam

theorem tokens_suffix_of_column :
    let front := [Token.leaf .separator "or" 0, Token.leaf .whitespace " " 2]
    let column : Token := ⟨.matcher, "a", 3, 3, [Token.leaf .column "a" 3]⟩
    Grammar.matcher.tokens "or a" = front ++ [column] ∧
      [column] = (Grammar.matcher.tokens (("or a" : Text).drop 3)).map
        (Token.shift 3) := by
  intro front column
  have hTokens : Grammar.matcher.tokens "or a" = front ++ [column] := by rfl
  exact ⟨hTokens, tokens_suffix .matcher hTokens⟩

end Lexer

end QueryPhrase
