import Mathlib.Data.List.DropRight
import QueryPhrase.Proofs.Lexer.Cut

/-!
# Typing at the end of a text

When a text goes on, the tokens at its end may change and the others stay. A unit
that looks one character ahead decides in the same way before a longer text, so
all that is not settled is the token the text ends in.

Triples look further. A triple is over before a connective between blanks, and
what has been typed is known to be a connective only when a blank is behind it.
So three tokens are not settled: a triple, the blanks behind it, and a word that
is a connective for now.

## Main definitions

* `Grammar.unsettled` — how many tokens may change.

## Main results

* `Lexer.reading_settled` — with one character of look-ahead, all but the last
  token are settled.
* `Lexer.IsTriple.append` — a triple behind which a connective is over.
* `Lexer.tokens_settled` — the tokens before those that may change stay.
-/

namespace QueryPhrase

/-- How many tokens at the end of a text may change when the text goes on. -/
def Grammar.unsettled : Grammar → Nat
  | .word | .field => 1
  | .matcher => 3

namespace Lexer

/-- Where a token stays as long as enough others follow it, all before the last
ones stay. -/
private theorem rdrop_cons_prefix {α : Type} {count : Nat} {token : α}
    {tokens others : List α}
    (h : count ≤ tokens.length →
      ∃ rest, others = token :: rest ∧ tokens.rdrop count <+: rest) :
    (token :: tokens).rdrop count <+: others := by
  by_cases hCount : count ≤ tokens.length
  · obtain ⟨rest, hOthers, hRest⟩ := h hCount
    have hLength : (token :: tokens).length - count =
        tokens.length - count + 1 := by
      rw [List.length_cons]
      omega
    rw [List.rdrop, hLength, List.take_succ_cons, hOthers]
    exact (List.cons_prefix_cons).mpr ⟨rfl, hRest⟩
  · have hLength : (token :: tokens).length - count = 0 := by
      rw [List.length_cons]
      omega
    rw [List.rdrop, hLength]
    exact List.nil_prefix

/-! ## One character of look-ahead -/

/-- The unit looks no further ahead than one character. -/
def LooksAtNext : GrammarUnit → Prop
  | .matcher _ => False
  | _ => True

section Next

variable {units : List GrammarUnit} {before run rest other : Text}

/-- What such a unit asks about the rest depends on its first character. -/
private theorem ahead_of_head? (hHead : rest.head? = other.head?) :
    rest.isEmpty = other.isEmpty ∧ rest.startsBlank = other.startsBlank ∧
      ∀ c : Char, [c].isPrefixOf rest = [c].isPrefixOf other := by
  cases rest with
  | nil =>
      cases other with
      | nil => exact ⟨rfl, rfl, fun _ => rfl⟩
      | cons d _ => cases hHead
  | cons c _ =>
      cases other with
      | nil => cases hHead
      | cons d _ =>
          cases hHead
          exact ⟨rfl, rfl, fun _ => rfl⟩

private theorem locks_of_head? {unit : GrammarUnit} (hUnit : LooksAtNext unit)
    (hHead : rest.head? = other.head?) :
    unit.locks (.between before run rest) =
      unit.locks (.between before run other) := by
  obtain ⟨hEmpty, hBlank, hColon⟩ := ahead_of_head? hHead
  cases unit with
  | matcher _ => exact absurd hUnit id
  | field _ =>
      simp only [GrammarUnit.locks, FieldTerm.locks, Scanner.startsWithAny,
        Scanner.run_between, Scanner.rest_between, List.any_cons, List.any_nil]
      exact congrArg (fun colon => _ && (colon || false)) (hColon ':')
  | word _ | whitespace _ | operator _ | separator _ =>
      simp only [GrammarUnit.locks, Scanner.separatorBehind, Scanner.atBoundary,
        Scanner.run_between, Scanner.behind_between, Scanner.atEnd_between,
        Scanner.blankAhead_between, hEmpty, hBlank]

private theorem token?_of_head? {unit : GrammarUnit} (hUnit : LooksAtNext unit)
    (hHead : rest.head? = other.head?) :
    unit.token? (.between before run rest) =
      unit.token? (.between before run other) := by
  obtain ⟨hEmpty, hBlank, _⟩ := ahead_of_head? hHead
  cases unit with
  | matcher _ => exact absurd hUnit id
  | _ =>
      simp only [GrammarUnit.token?, FieldTerm.token?, FieldTerm.complete,
        FieldTerm.valueComplete, Scanner.atBoundary, Scanner.atEnd_between,
        Scanner.blankAhead_between, hEmpty, hBlank]

private theorem looksAtNext_seeded {unit : GrammarUnit} (start : Nat)
    (hUnit : LooksAtNext unit) :
    LooksAtNext (Recognizer.seeded unit start run) := by
  cases unit with
  | matcher _ => exact absurd hUnit id
  | _ => simp [LooksAtNext]

/-- Before rests that begin alike the units decide alike. -/
private theorem decides_of_head? (before run : Text)
    (hUnits : ∀ unit ∈ units, LooksAtNext unit)
    (hHead : rest.head? = other.head?) :
    reader units (.between before run rest) =
        reader units (.between before run other) ∧
      offer units (.between before run rest) =
        offer units (.between before run other) := by
  constructor
  · funext active
    exact reader_congr
      (fun unit hUnit => locks_of_head? (hUnits unit hUnit) hHead) active
  · funext index
    rw [offer, offer]
    refine Option.bind_congr fun unit hUnit => ?_
    have hLooks := hUnits unit (List.mem_of_getElem? hUnit)
    rw [Scanner.run_between, Scanner.run_between]
    exact token?_of_head? (looksAtNext_seeded _ hLooks) hHead

/-- **All but the last token are settled** when no unit looks further than one
character. -/
theorem reading_settled (hUnits : ∀ unit ∈ units, LooksAtNext unit)
    (more rest : Text) :
    ∀ (before run : Text) (active : Option Nat),
      (reading units before run active rest).rdrop 1 <+:
        reading units before run active (rest ++ more) := by
  induction rest with
  | nil =>
      intro before run active
      cases active <;> exact List.nil_prefix
  | cons c rest ih =>
      intro before run active
      by_cases hRest : rest = []
      · -- Whichever unit reads the last character, one token ends the text.
        subst hRest
        have hOne : (reading units before run active [c]).length ≤ 1 := by
          rw [reading]
          split <;> exact Nat.le_refl 1
        rw [List.rdrop, Nat.sub_eq_zero_of_le hOne]
        exact List.nil_prefix
      · have hHead : rest.head? = (rest ++ more).head? := by
          obtain ⟨d, others, hCons⟩ := List.exists_cons_of_ne_nil hRest
          rw [hCons]
          rfl
        obtain ⟨hReader, hOffer⟩ :=
          decides_of_head? before (run ++ [c]) hUnits hHead
        rw [List.cons_append, reading, reading, ← hReader, ← hOffer]
        split
        · exact rdrop_cons_prefix fun _ => ⟨_, rfl, ih _ _ _⟩
        · exact ih _ _ _

end Next

/-! ## Connectives ahead -/

/-- A blank comes behind the first word, so this word is over. -/
def WordOver (text : Text) : Prop :=
  ∃ c ∈ text.dropWhile isBlank, isBlank c = true

section Triples

variable {run rest : Text}

theorem WordOver.ne_nil (h : WordOver rest) : rest ≠ [] := by
  rintro rfl
  obtain ⟨c, hMem, _⟩ := h
  cases hMem

/-- With more in front the first word may be another, and it is over, too. -/
theorem WordOver.prepend (h : WordOver rest) (ahead : Text) :
    WordOver (ahead ++ rest) := by
  induction ahead with
  | nil => exact h
  | cons d others ih =>
      obtain ⟨c, hMem, hBlank⟩ := ih
      refine ⟨c, ?_, hBlank⟩
      cases hFirst : isBlank d with
      | true => simpa [hFirst] using hMem
      | false =>
          have hIn := (List.dropWhile_sublist isBlank).subset hMem
          simpa [hFirst] using Or.inr (List.mem_append.mp hIn)

private theorem connectiveFirst_iff : ConnectiveFirst rest ↔
    rest.startsBlank = true ∧ Keyword.isSeparator
      ((rest.dropWhile isBlank).takeWhile fun c => !isBlank c) = true := by
  rw [← @separatorAhead_between [] [] rest, Scanner.separatorAhead,
    Scanner.blankAhead_between, Scanner.rest_between, Bool.and_eq_true]

/-- Whether a connective comes first is known once the first word is over. -/
theorem WordOver.connectiveFirst_append (h : WordOver rest) (more : Text) :
    ConnectiveFirst (rest ++ more) ↔ ConnectiveFirst rest := by
  obtain ⟨c, hMem, hBlank⟩ := h
  have hDrop : (rest ++ more).dropWhile isBlank =
      rest.dropWhile isBlank ++ more := by
    rw [List.dropWhile_append, if_neg]
    rw [List.isEmpty_iff]
    exact List.ne_nil_of_mem hMem
  obtain ⟨word, others, hSplit, hSolid, hOthers⟩ :=
    Text.cut_word (rest.dropWhile isBlank)
  have hSome : others ≠ [] := by
    rintro rfl
    rw [hSplit, List.append_nil] at hMem
    rw [hSolid c hMem] at hBlank
    cases hBlank
  rw [connectiveFirst_iff, connectiveFirst_iff, hDrop, hSplit,
    List.append_assoc, Text.takeWhile_word hSolid hOthers,
    Text.takeWhile_word hSolid ((Text.endsWord_append hSome more).mpr hOthers),
    Text.startsBlank_append_of_ne_nil (WordOver.ne_nil ⟨c, hMem, hBlank⟩)]

/-! ## Pieces of a text that goes on -/

private theorem isConnective_append (hRest : rest ≠ []) (more : Text) :
    IsConnective run (rest ++ more) ↔ IsConnective run rest := by
  rw [IsConnective, IsConnective, Text.endsWord_append hRest]

private theorem WordOver.whole_append (h : WordOver rest) (more : Text) :
    Whole run (rest ++ more) ↔ Whole run rest := by
  rw [Whole, Whole, h.connectiveFirst_append, List.append_eq_nil_iff]
  simp [h.ne_nil]

/-- **A triple stays** when the word behind it is over: whether it is whole, there
and before, does not depend on how the text goes on. -/
theorem IsTriple.append (h : IsTriple run rest) (hOver : WordOver rest)
    (more : Text) : IsTriple run (rest ++ more) where
  ne_nil := h.ne_nil
  starts := h.starts
  whole := (hOver.whole_append more).mpr h.whole
  not_connective := by
    rw [isConnective_append hOver.ne_nil]
    exact h.not_connective
  passes seen ahead hSeen hAhead hSplit := by
    have hPlace := h.passes seen ahead hSeen hAhead hSplit
    have hLater := hOver.prepend ahead
    rw [← List.append_assoc]
    refine ⟨?_, ?_⟩
    · rw [hLater.whole_append]
      exact hPlace.not_whole
    · rw [isConnective_append hLater.ne_nil]
      exact hPlace.not_connective

/-- When three tokens follow a triple, the word behind it is over. -/
private theorem wordOver_of_cut {before : Text} {tokens : List Token}
    (hFirst : ConnectiveFirst rest) (hCut : Cut before rest tokens)
    (hCount : 3 ≤ tokens.length) : WordOver rest := by
  obtain ⟨blanks, word, others, hRest, hSome, hBlanks, hWord, hOthers⟩ := hFirst
  obtain ⟨back, hTokens, hBack⟩ :=
    hCut.head_pieces hRest hSome hBlanks ⟨hWord, hOthers⟩
  rcases hOthers with hNil | hBlank
  · subst hNil
    have hNone := hBack.unique (.nil _)
    rw [hTokens, hNone] at hCount
    exact absurd hCount (by simp)
  · cases others with
    | nil => cases hBlank
    | cons c others =>
        refine ⟨c, ?_, hBlank⟩
        rw [hRest, Text.dropWhile_blanks hBlanks
          (startsBlank_of_isSeparator hWord)]
        simp

/-- A piece that three tokens follow is a piece of the longer text. -/
theorem Piece.append {before : Text} {token : Token} {tokens : List Token}
    (h : Piece before run rest token) (hCut : Cut (before ++ run) rest tokens)
    (hCount : 3 ≤ tokens.length) (more : Text) :
    Piece before run (rest ++ more) token := by
  have hRest : rest ≠ [] := by
    rintro rfl
    rw [hCut.unique (.nil _)] at hCount
    exact absurd hCount (by simp)
  cases h with
  | blanks hRun hBlank hStarts =>
      refine .blanks hRun hBlank ?_
      rw [Text.startsBlank_append_of_ne_nil hRest]
      exact hStarts
  | connective hBefore hRun =>
      exact .connective hBefore ((isConnective_append hRest more).mpr hRun)
  | triple hRun hToken =>
      have hFirst := (hRun.whole.resolve_left hRest).2.2
      have hOver := wordOver_of_cut hFirst hCut hCount
      exact .triple (hRun.append hOver more) hToken

/-- **All but the last three pieces are settled.** -/
theorem Cut.settled {before text : Text} {tokens : List Token}
    (h : Cut before text tokens) (more : Text) :
    ∀ {others : List Token}, Cut before (text ++ more) others →
      tokens.rdrop 3 <+: others := by
  induction h with
  | nil before => exact fun _ => List.nil_prefix
  | cons hPiece hCut ih =>
      intro others hOthers
      refine rdrop_cons_prefix fun hCount => ?_
      obtain ⟨later, hLater, hRest⟩ :=
        hOthers.head (hPiece.append hCut hCount more) (List.append_assoc _ _ _)
      exact ⟨later, hLater, ih hRest⟩

end Triples

/-! ## The three grammars -/

/-- **What is typed at the end changes the last tokens only**: one of them, or
three in a matcher phrase. -/
theorem tokens_settled (grammar : Grammar) (text more : Text) :
    (grammar.tokens text).rdrop grammar.unsettled <+:
      grammar.tokens (text ++ more) := by
  cases grammar with
  | word | field =>
      rw [Grammar.tokens, Grammar.tokens, Grammar.lexer, tokens_eq_reading,
        tokens_eq_reading]
      exact reading_settled (by simp [Grammar.units, LooksAtNext]) more text
        [] [] none
  | matcher => exact (cut_tokens text).settled more (cut_tokens _)

/-- Three it takes: behind a triple and a blank, what has been typed of the next
word is a connective for now. -/
example :
    ¬ ((Grammar.matcher.tokens "a = b or").map Token.value).rdrop 2 <+:
      (Grammar.matcher.tokens ("a = b or" ++ "c")).map Token.value := by
  decide

end Lexer

end QueryPhrase
