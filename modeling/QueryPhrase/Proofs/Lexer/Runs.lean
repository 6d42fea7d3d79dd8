import Mathlib.Data.List.Sort
import QueryPhrase.Proofs.Lexer.Cut
import QueryPhrase.Proofs.Lexer.Leaves

/-!
# Words and blanks are runs

The lexer of words has a unit for words and one for blanks. Its tokens can be
told without it: they are the maximal runs of the text, each of characters that
are all blank or of which none is.

A run is maximal when the characters on either side of it are of the other
class. Two maximal runs that share a character are therefore the same
(`Token.IsRun.eq_of_shared`). The tokens tile the text, so once each of them is
a maximal run there can be no other one (`Lexer.mem_of_maximalRun`).

## Main definitions

* `Token.IsRun`, `Token.MaximalRun` — a token over a maximal run of a text.
* `Lexer.RunPiece` — a piece of a text that is such a run.

## Main results

* `Lexer.pieces_words` — the lexer of words cuts the text into runs.
* `Lexer.words_eq_iff` — its tokens are all the maximal runs, in order, and no
  other list has this property.
-/

namespace QueryPhrase

/-! ## Maximal runs -/

/-- The token is over a run of characters of one class, blank or not, and the
run cannot be made longer on either side. -/
structure Token.IsRun (text : Text) (blank : Bool) (token : Token) : Prop where
  kind_eq : token.kind = if blank then .whitespace else .word
  children_eq : token.children = []
  covers : token.Covers text
  same : ∀ c ∈ token.value, isBlank c = blank
  /-- The character in front of it, if there is one, is of the other class. -/
  left : ∀ c, token.start ≠ 0 → text[token.start - 1]? = some c →
    isBlank c ≠ blank
  /-- So is the character behind it. -/
  right : ∀ c, text[token.stop + 1]? = some c → isBlank c ≠ blank

/-- The token is over a maximal run of blanks or of other characters. -/
def Token.MaximalRun (text : Text) (token : Token) : Prop :=
  ∃ blank, token.IsRun text blank

namespace Token.IsRun

variable {text : Text} {blank other : Bool} {a b : Token} {offset : Nat}

/-- The characters of the text from its start to its stop are of its class. -/
theorem class_at (h : a.IsRun text blank) (hLow : a.start ≤ offset)
    (hHigh : offset ≤ a.stop) :
    ∃ c, text[offset]? = some c ∧ isBlank c = blank := by
  have hStop := h.covers.stop_eq
  have hPos := List.length_pos_iff.mpr h.covers.value_ne_nil
  have hIndex : offset - a.start < a.value.length := by omega
  refine ⟨a.value[offset - a.start], ?_, h.same _ (List.getElem_mem hIndex)⟩
  have hAt := List.getElem?_eq_getElem hIndex
  have hInside : offset - a.start < a.stop + 1 - a.start := by omega
  have hOffset : a.start + (offset - a.start) = offset := by omega
  rw [← hAt, h.covers.value_eq, List.getElem?_take_of_lt hInside,
    List.getElem?_drop, hOffset]

/-- Runs that share a character are of one class. -/
theorem class_eq (hA : a.IsRun text blank) (hB : b.IsRun text other)
    (hInA : a.start ≤ offset ∧ offset ≤ a.stop)
    (hInB : b.start ≤ offset ∧ offset ≤ b.stop) : blank = other := by
  obtain ⟨c, hAt, hBlank⟩ := hA.class_at hInA.1 hInA.2
  obtain ⟨d, hAt', hOther⟩ := hB.class_at hInB.1 hInB.2
  rw [hAt, Option.some.injEq] at hAt'
  rw [← hBlank, ← hOther, hAt']

/-- Neither begins earlier than the other: the character in front of it would be
of its own class. -/
theorem start_le (hA : a.IsRun text blank) (hB : b.IsRun text blank)
    (hInA : a.start ≤ offset ∧ offset ≤ a.stop)
    (hInB : b.start ≤ offset ∧ offset ≤ b.stop) : a.start ≤ b.start := by
  by_contra hLater
  obtain ⟨c, hAt, hBlank⟩ :=
    @class_at _ _ _ (a.start - 1) hB (by omega) (by omega)
  exact hA.left c (by omega) hAt hBlank

/-- Neither stops later. -/
theorem stop_le (hA : a.IsRun text blank) (hB : b.IsRun text blank)
    (hInA : a.start ≤ offset ∧ offset ≤ a.stop)
    (hInB : b.start ≤ offset ∧ offset ≤ b.stop) : a.stop ≤ b.stop := by
  by_contra hLater
  obtain ⟨c, hAt, hBlank⟩ :=
    @class_at _ _ _ (b.stop + 1) hA (by omega) (by omega)
  exact hB.right c hAt hBlank

/-- **Maximal runs that share a character are the same.** -/
theorem eq_of_shared (hA : a.IsRun text blank) (hB : b.IsRun text other)
    (hInA : a.start ≤ offset ∧ offset ≤ a.stop)
    (hInB : b.start ≤ offset ∧ offset ≤ b.stop) : a = b := by
  obtain rfl : blank = other := hA.class_eq hB hInA hInB
  have hStart : a.start = b.start :=
    Nat.le_antisymm (hA.start_le hB hInA hInB) (hB.start_le hA hInB hInA)
  have hStop : a.stop = b.stop :=
    Nat.le_antisymm (hA.stop_le hB hInA hInB) (hB.stop_le hA hInB hInA)
  have hValue : a.value = b.value := by
    rw [hA.covers.value_eq, hB.covers.value_eq, hStart, hStop]
  have hKind : a.kind = b.kind := hA.kind_eq.trans hB.kind_eq.symm
  have hChildren : a.children = b.children :=
    hA.children_eq.trans hB.children_eq.symm
  cases a
  cases b
  simp_all

end Token.IsRun

namespace Lexer

/-! ## The lexer cuts the text into runs -/

/-- The units of words: words and blanks. -/
abbrev wordUnits : List GrammarUnit := Grammar.word.units

/-- A piece of a text between what is before it and the rest, with its token: a
run of one class, between characters of the other. -/
structure RunPiece (blank : Bool) (before run rest : Text) (token : Token) :
    Prop where
  ne_nil : run ≠ []
  same : ∀ c ∈ run, isBlank c = blank
  left : ∀ c, before.getLast? = some c → isBlank c ≠ blank
  right : ∀ c, rest.head? = some c → isBlank c ≠ blank
  token_eq : token =
    Token.leaf (if blank then .whitespace else .word) run before.length

/-- Which unit reads the run pending at a place, and what is known of the run.
-/
inductive RunPending (before rest : Text) : Text → Option Nat → Prop
  | none : (∀ c d, before.getLast? = some c → rest.head? = some d →
      isBlank c ≠ isBlank d) → RunPending before rest [] none
  | run {run : Text} {blank : Bool} {next : Char} : run ≠ [] →
    (∀ c ∈ run, isBlank c = blank) →
    (∀ c, before.getLast? = some c → isBlank c ≠ blank) →
    rest.head? = some next → isBlank next = blank →
      RunPending before rest run (some blank.toNat)

section Units

variable {before run rest : Text} {active : Option Nat} {blank : Bool}

/-- With the next character the run is one of that character's class, and so it
was before if it held anything. -/
theorem exists_class {c : Char}
    (h : RunPending before (c :: rest) run active) :
    ∃ blank, (active = none ∨ active = some blank.toNat) ∧
      (∀ d ∈ run ++ [c], isBlank d = blank) ∧
      ∀ d, before.getLast? = some d → isBlank d ≠ blank := by
  cases h with
  | none hPlace =>
      exact ⟨isBlank c, Or.inl rfl, by simp, fun d hLast =>
        hPlace d c hLast rfl⟩
  | @run _ blank _ _ hSame hLeft hNext hBlank =>
      cases hNext
      refine ⟨blank, Or.inr rfl, ?_, hLeft⟩
      rw [List.forall_mem_append, List.forall_mem_singleton]
      exact ⟨hSame, hBlank⟩

/-- Runs are read by the unit of their class. -/
theorem reader_run (hActive : active = none ∨ active = some blank.toNat)
    (hRun : run ≠ []) (hSame : ∀ c ∈ run, isBlank c = blank) :
    reader wordUnits (.between before run rest) active = blank.toNat := by
  cases blank with
  | true =>
      exact reader_blanks rfl (by simp [wordUnits, Grammar.units]) hActive hRun
        hSame
  | false =>
      have hUnit : wordUnits[0]? = some (.word (.empty 0)) := rfl
      refine reader_of_locks hUnit ?_ (by simp) hActive
      rw [GrammarUnit.locks, Scanner.run_between]
      exact holds_solid hRun hSame

/-- It has a token for a run that no further character of the class follows. -/
theorem offer_run (hRun : run ≠ []) (hSame : ∀ c ∈ run, isBlank c = blank) :
    offer wordUnits (.between before run rest) blank.toNat =
      if rest.head?.any (isBlank · == blank) then none
      else some (Token.leaf (if blank then .whitespace else .word) run
        before.length) := by
  cases blank with
  | true =>
      have hOffer := @offer_blanks before _ rest wordUnits 1 _ rfl hRun hSame
      rw [Bool.toNat_true, hOffer, Text.startsBlank]
      simp only [beq_true]
      rfl
  | false =>
      have hOffer := @offer_word before _ rest wordUnits 0 _ rfl hRun hSame
      rw [Bool.toNat_false, hOffer, Scanner.atBoundary, Scanner.atEnd_between,
        Scanner.blankAhead_between]
      cases rest with
      | nil => rfl
      | cons c others =>
          cases hBlank : isBlank c <;> simp [Text.startsBlank, hBlank]

end Units

/-- **The lexer of words cuts the text into runs.** The induction is on what has
not been read, for whichever unit reads the pending run. -/
theorem pieces_reading_words (rest : Text) :
    ∀ (before run : Text) (active : Option Nat),
      RunPending before rest run active →
        Pieces (fun before run rest token =>
            ∃ blank, RunPiece blank before run rest token)
          before (run ++ rest) (reading wordUnits before run active rest) := by
  induction rest with
  | nil =>
      intro before run active h
      cases h with
      | none _ => exact .nil before
      | run _ _ _ hNext _ => cases hNext
  | cons c rest ih =>
      intro before run active h
      obtain ⟨blank, hActive, hSame, hLeft⟩ := exists_class h
      have hRun : run ++ [c] ≠ [] := by simp
      have hText : run ++ c :: rest = (run ++ [c]) ++ rest := by simp
      rw [hText, reading]
      simp only [reader_run hActive hRun hSame, offer_run hRun hSame]
      cases hNext : rest.head?.any (isBlank · == blank) with
      | true =>
          obtain ⟨next, hHead, hBlank⟩ := (Option.any_eq_true _ _).mp hNext
          exact ih before _ _
            (.run hRun hSame hLeft hHead (beq_iff_eq.mp hBlank))
      | false =>
          have hRight : ∀ d, rest.head? = some d → isBlank d ≠ blank := by
            intro d hHead hBlank
            rw [hHead, Option.any_some, hBlank, beq_self_eq_true] at hNext
            cases hNext
          refine .cons ⟨blank, hRun, hSame, hLeft, hRight, rfl⟩
            (ih _ _ _ (.none ?_))
          intro last d hLast hHead
          rw [List.getLast?_append_of_ne_nil _ hRun] at hLast
          rw [hSame last (List.mem_of_getLast? hLast)]
          exact (hRight d hHead).symm

theorem pieces_words (text : Text) :
    Pieces (fun before run rest token =>
        ∃ blank, RunPiece blank before run rest token)
      [] text (Grammar.word.tokens text) := by
  have hPieces := pieces_reading_words text [] [] none (.none (by simp))
  rw [List.nil_append, ← tokens_eq_reading] at hPieces
  exact hPieces

/-! ## The tokens are the maximal runs -/

/-- The token of a piece is a maximal run of the text. -/
theorem RunPiece.isRun {blank : Bool} {before run rest : Text} {token : Token}
    (h : RunPiece blank before run rest token) :
    token.IsRun (before ++ (run ++ rest)) blank := by
  obtain ⟨hRun, hSame, hLeft, hRight, rfl⟩ := h
  have hSpans := Token.spans_leaf (if blank then .whitespace else .word)
    before.length hRun
  have hCovers := hSpans.covers rest hRun
  rw [List.append_assoc] at hCovers
  refine ⟨rfl, rfl, hCovers, hSame, ?_, ?_⟩
  · intro c hStart hAt
    rw [hSpans.start_eq] at hStart hAt
    rw [List.getElem?_append_left (by omega),
      ← List.getLast?_eq_getElem?] at hAt
    exact hLeft c hAt
  · intro c hAt
    rw [hSpans.next_eq, ← List.length_append, ← List.append_assoc,
      List.getElem?_append_right (Nat.le_refl _), Nat.sub_self,
      ← List.head?_eq_getElem?] at hAt
    exact hRight c hAt

theorem maximalRun_of_mem {text : Text} {token : Token}
    (hMem : token ∈ Grammar.word.tokens text) : token.MaximalRun text := by
  obtain ⟨front, back, hTokens⟩ := List.append_of_mem hMem
  have hPieces := pieces_words text
  rw [hTokens] at hPieces
  obtain ⟨seen, run, rest, hText, ⟨blank, hPiece⟩, _⟩ := hPieces.at_token
  rw [hText]
  exact ⟨blank, hPiece.isRun⟩

/-- A maximal run has a character, some token has the same character, and that
token is a maximal run, too. -/
theorem mem_of_maximalRun {text : Text} {token : Token}
    (h : token.MaximalRun text) : token ∈ Grammar.word.tokens text := by
  obtain ⟨blank, hRun⟩ := h
  have hInside : token.start ≤ token.start ∧ token.start ≤ token.stop :=
    ⟨Nat.le_refl _, hRun.covers.start_le_stop⟩
  obtain ⟨c, hAt, _⟩ := hRun.class_at hInside.1 hInside.2
  obtain ⟨hLow, _⟩ := List.getElem?_eq_some_iff.mp hAt
  obtain ⟨front, found, back, hTokens, hFound, _, _⟩ :=
    (tokens_tile wordUnits text).tiles.exists_at (Nat.zero_le _) hLow
  have hMem : found ∈ Grammar.word.tokens text := by
    change found ∈ (Lexer.mk wordUnits).tokens text
    simp [hTokens]
  obtain ⟨other, hOther⟩ := maximalRun_of_mem hMem
  rw [hRun.eq_of_shared hOther hInside hFound]
  exact hMem

/-- **The tokens of words are the maximal runs.** In any text they are all the
maximal runs of blanks and of other characters, in order, labelled as blanks and
as words; and a list that has just these tokens in this order is theirs. -/
theorem words_eq_iff (text : Text) (tokens : List Token) :
    tokens = Grammar.word.tokens text ↔
      (∀ token, token ∈ tokens ↔ token.MaximalRun text) ∧
        tokens.Pairwise (·.start < ·.start) := by
  have hRuns : ∀ token, token ∈ Grammar.word.tokens text ↔
      token.MaximalRun text :=
    fun token => ⟨maximalRun_of_mem, mem_of_maximalRun⟩
  have hOrder : (Grammar.word.tokens text).Pairwise (·.start < ·.start) :=
    (tokens_tile wordUnits text).tiles.pairwise_start
  constructor
  · rintro rfl
    exact ⟨hRuns, hOrder⟩
  · rintro ⟨hMem, hSorted⟩
    have : Std.Irrefl fun a b : Token => a.start < b.start :=
      ⟨fun a => Nat.lt_irrefl a.start⟩
    have : Std.Antisymm fun a b : Token => a.start < b.start :=
      ⟨fun a b hLess hMore => absurd hLess (Nat.lt_asymm hMore)⟩
    exact hSorted.eq_of_mem_iff hOrder fun token =>
      (hMem token).trans (hRuns token).symm

end Lexer

end QueryPhrase
