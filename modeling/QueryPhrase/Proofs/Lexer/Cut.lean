import QueryPhrase.Proofs.Lexer.Reading
import QueryPhrase.Proofs.Recognizer.Triple
import QueryPhrase.Proofs.Term.Keyword

/-!
# How a matcher phrase is cut

The lexer of matcher phrases has three units: one for connectives, one for
triples and one for blanks. Which tokens it gives can be said without following
it: the text is cut piece by piece, and each piece is blanks up to the next
word, a connective between blanks, or a triple. A triple is the shortest run
that is whole, where no shorter one is a connective between blanks.

A text is cut in one way only, so the tokens of a text are found by giving a
cut of it.

## Main definitions

* `Lexer.ConnectiveFirst` — a connective between blanks comes first in a text.
* `Lexer.Whole` — where the triples' unit has a token.
* `Lexer.Piece` — the pieces of a phrase, and the token of each.
* `Lexer.Cut` — the tokens of a text that is cut into pieces.

## Main results

* `Lexer.cut_reading` — the tokens that the lexer gives are a cut.
* `Lexer.Cut.unique` — a text has one cut.
-/

namespace QueryPhrase.Lexer

open MatcherTriple

/-- The units of matcher phrases: connectives, triples and blanks. -/
abbrev phraseUnits : List GrammarUnit := Grammar.matcher.units

/-! ## Places -/

/-- Blanks come first, then a connective, and then another blank or the end of
the text. -/
def ConnectiveFirst (rest : Text) : Prop :=
  ∃ blanks word others, rest = blanks ++ (word ++ others) ∧ blanks ≠ [] ∧
    (∀ c ∈ blanks, isBlank c = true) ∧ Keyword.isSeparator word = true ∧
      Text.EndsWord others

/-- Before the rest a run is a whole triple: the text is over, or the run has
come to its value, its quotes are closed, and a connective comes first in the
rest. -/
def Whole (run rest : Text) : Prop :=
  rest = [] ∨ ((progress run).1 = .value ∧
    (QuoteState.ofText run).isOpen = false ∧ ConnectiveFirst rest)

/-- Before the rest a run is a connective that is over. -/
def IsConnective (run rest : Text) : Prop :=
  Keyword.isSeparator run = true ∧ Text.EndsWord rest

/-- A triple goes on past this place. -/
structure Passes (run rest : Text) : Prop where
  not_whole : ¬ Whole run rest
  not_connective : ¬ IsConnective run rest

/-- There is no connective without a character. -/
theorem ne_nil_of_isSeparator {word : Text}
    (h : Keyword.isSeparator word = true) : word ≠ [] := by
  rintro rfl
  exact absurd h (by decide)

theorem ConnectiveFirst.startsBlank {rest : Text} (h : ConnectiveFirst rest) :
    rest.startsBlank = true := by
  obtain ⟨blanks, word, others, hRest, hBlanks, hAll, _⟩ := h
  rw [hRest, Text.startsBlank_append_of_ne_nil hBlanks]
  exact Text.startsBlank_of_blanks hBlanks hAll

theorem Whole.endsWord {run rest : Text} (h : Whole run rest) :
    Text.EndsWord rest := by
  rcases h with hEnd | ⟨_, _, hFirst⟩
  · exact Or.inl hEnd
  · exact Or.inr hFirst.startsBlank

/-- More blanks may stand before the connective. -/
theorem ConnectiveFirst.cons {c : Char} {rest : Text} (hBlank : isBlank c = true)
    (h : ConnectiveFirst rest) : ConnectiveFirst (c :: rest) := by
  obtain ⟨blanks, word, others, hRest, _, hAll, hWord, hOthers⟩ := h
  refine ⟨c :: blanks, word, others, by rw [hRest]; rfl, List.cons_ne_nil _ _,
    ?_, hWord, hOthers⟩
  rw [List.forall_mem_cons]
  exact ⟨hBlank, hAll⟩

theorem startsBlank_of_isSeparator {word others : Text}
    (hWord : Keyword.isSeparator word = true) :
    (word ++ others).startsBlank = false := by
  rw [Text.startsBlank_append_of_ne_nil (ne_nil_of_isSeparator hWord)]
  exact Text.startsBlank_of_word (Keyword.solid_of_isSeparator hWord)

/-! ## The scanner at a place -/

section Scanner

variable {before run rest : Text}

theorem atBoundary_between :
    (Scanner.between before run rest).atBoundary = true ↔
      Text.EndsWord rest := by
  simp [Scanner.atBoundary, Text.EndsWord]

theorem separatorAhead_between :
    (Scanner.between before run rest).separatorAhead = true ↔
      ConnectiveFirst rest := by
  rw [Scanner.separatorAhead, Scanner.blankAhead_between, Scanner.rest_between,
    Bool.and_eq_true]
  constructor
  · rintro ⟨hBlank, hWord⟩
    obtain ⟨blanks, fromWord, hRest, hBlanks, hFromWord⟩ := Text.cut_blanks rest
    obtain ⟨word, others, hSplit, hSolid, hOthers⟩ := Text.cut_word fromWord
    rw [hRest, Text.dropWhile_blanks hBlanks hFromWord, hSplit,
      Text.takeWhile_word hSolid hOthers] at hWord
    refine ⟨blanks, word, others, by rw [hRest, hSplit], ?_, hBlanks, hWord,
      hOthers⟩
    intro hNone
    rw [hRest, hNone, List.nil_append, hFromWord] at hBlank
    cases hBlank
  · intro hFirst
    refine ⟨hFirst.startsBlank, ?_⟩
    obtain ⟨blanks, word, others, hRest, _, hBlanks, hWord, hOthers⟩ := hFirst
    rw [hRest, Text.dropWhile_blanks hBlanks (startsBlank_of_isSeparator hWord),
      Text.takeWhile_word (Keyword.solid_of_isSeparator hWord) hOthers]
    exact hWord

/-- The last word consumed is the run, when it has no blank and a word may begin
before it. -/
theorem separatorBehind_between (hBefore : Text.StartsWord before)
    (hSolid : ∀ c ∈ run, isBlank c = false) :
    (Scanner.between before run rest).separatorBehind =
      Keyword.isSeparator run := by
  have hAll : ∀ c ∈ run.reverse, (!isBlank c) = true := by
    intro c hMem
    rw [hSolid c (List.mem_reverse.mp hMem)]
    rfl
  rw [Scanner.separatorBehind, Scanner.behind_between, List.reverse_append,
    List.takeWhile_append_of_pos hAll, List.reverse_append]
  rcases hBefore with hNil | ⟨front, c, hConcat, hBlank⟩
  · simp [hNil]
  · simp [hConcat, hBlank]

theorem locks_between (hRun : run ≠ []) (hStarts : run.startsBlank = false) :
    MatcherTriple.locks (.between before run rest) = true := by
  obtain ⟨c, others, hCons⟩ := List.exists_cons_of_ne_nil hRun
  rw [hCons, Text.startsBlank_cons] at hStarts
  simp [MatcherTriple.locks, hCons, hStarts]

end Scanner

/-! ## Who reads, and when there is a token -/

section Units

variable {before run rest : Text} {active : Option Nat}

/-- A run that does not begin with a blank is read by the connectives' unit
where it is a connective between blanks, and by the triples' unit elsewhere. -/
private theorem reader_solid (hActive : active = none ∨ active = some 1)
    {s : Scanner} (hRun : MatcherTriple.locks s = true) :
    reader phraseUnits s active =
      if Keyword.isSeparator s.run && s.separatorBehind && s.atBoundary then 0
      else 1 := by
  rcases hActive with hNone | hSome
  · subst hNone
    simp only [reader, firstLock, phraseUnits, Grammar.units, Recognizer.locks,
      GrammarUnit.locks, List.findIdx?_cons, hRun]
    split <;> rfl
  · subst hSome
    simp only [reader, firstLock, phraseUnits, Grammar.units, Recognizer.locks,
      GrammarUnit.locks, List.take_succ_cons, List.take_zero,
      List.findIdx?_cons, List.findIdx?_nil]
    split <;> rfl

theorem reader_connective (hActive : active = none ∨ active = some 1)
    (hBefore : Text.StartsWord before) (hRun : IsConnective run rest) :
    reader phraseUnits (.between before run rest) active = 0 := by
  obtain ⟨hWord, hRest⟩ := hRun
  have hSolid := Keyword.solid_of_isSeparator hWord
  have hLocks : MatcherTriple.locks (.between before run rest) = true :=
    locks_between (ne_nil_of_isSeparator hWord)
      (Text.startsBlank_of_word hSolid)
  rw [reader_solid hActive hLocks, Scanner.run_between,
    separatorBehind_between hBefore hSolid, atBoundary_between.mpr hRest, hWord]
  rfl

theorem reader_triple (hActive : active = none ∨ active = some 1)
    (hRun : run ≠ []) (hStarts : run.startsBlank = false)
    (hOther : ¬ IsConnective run rest) :
    reader phraseUnits (.between before run rest) active = 1 := by
  rw [reader_solid hActive (locks_between hRun hStarts), Scanner.run_between,
    if_neg]
  simp only [Bool.and_eq_true, and_assoc, not_and]
  intro hWord _ hBoundary
  exact hOther ⟨hWord, atBoundary_between.mp hBoundary⟩

/-- No unit but that of blanks takes them. -/
private theorem locks_blanks (hRun : run ≠ [])
    (hBlank : ∀ c ∈ run, isBlank c = true) {unit : GrammarUnit}
    (hUnit : ∀ buffer, unit ≠ .whitespace buffer) :
    unit.locks (.between before run rest) = false := by
  obtain ⟨c, others, hCons⟩ := List.exists_cons_of_ne_nil hRun
  have hFirst : isBlank c = true := hBlank c (by simp [hCons])
  have hAny : run.any isBlank = true :=
    List.any_eq_true.mpr ⟨c, by simp [hCons], hFirst⟩
  have hSolid : ¬ ∀ d ∈ run, isBlank d = false := by
    intro hAll
    have hNot := hAll c (by simp [hCons])
    rw [hFirst] at hNot
    cases hNot
  cases unit with
  | word buffer => simp [GrammarUnit.locks, hAny]
  | whitespace buffer => exact absurd rfl (hUnit buffer)
  | operator buffer =>
      have hWord : Keyword.isBooleanOperator run = false := by
        rw [← Bool.not_eq_true]
        exact fun h => hSolid (Keyword.solid_of_isBooleanOperator h).2
      simp [GrammarUnit.locks, hWord]
  | separator buffer =>
      have hWord : Keyword.isSeparator run = false := by
        rw [← Bool.not_eq_true]
        exact fun h => hSolid (Keyword.solid_of_isSeparator h)
      simp [GrammarUnit.locks, hWord]
  | field term => simp [GrammarUnit.locks, FieldTerm.locks, hAny]
  | matcher triple =>
      simp [GrammarUnit.locks, MatcherTriple.locks, hCons, hFirst]

section Blanks

variable {units : List GrammarUnit} {index : Nat} {buffer : TokenBuffer}
  (hUnit : units[index]? = some (.whitespace buffer))

include hUnit

/-- Blanks are read by their own unit, in any grammar. -/
theorem reader_blanks
    (hOthers : ∀ other ∈ units.take index, ∀ buffer, other ≠ .whitespace buffer)
    (hActive : active = none ∨ active = some index)
    (hRun : run ≠ []) (hBlank : ∀ c ∈ run, isBlank c = true) :
    reader units (.between before run rest) active = index := by
  refine reader_of_locks hUnit ?_ ?_ hActive
  · rw [GrammarUnit.locks, Scanner.run_between, List.all_eq_true.mpr hBlank,
      List.isEmpty_eq_false_iff.mpr hRun]
    rfl
  · exact fun other hOther => locks_blanks hRun hBlank (hOthers other hOther)

/-- It has a token for blanks that no further blank follows. -/
theorem offer_blanks (hRun : run ≠ []) (hBlank : ∀ c ∈ run, isBlank c = true) :
    offer units (.between before run rest) index =
      if rest.startsBlank then none
      else some (Token.leaf .whitespace run before.length) := by
  rw [offer_at hUnit, GrammarUnit.seeded_whitespace, GrammarUnit.token?,
    Scanner.blankAhead_between, TokenBuffer.token?_ofText, if_neg hRun]
  have hAll : (TokenBuffer.ofText before.length run).value.all isBlank = true :=
    List.all_eq_true.mpr hBlank
  rw [hAll]
  cases rest.startsBlank <;> rfl

end Blanks

section Words

/-- A run that holds something and no blank. -/
theorem holds_solid (hRun : run ≠ []) (hSolid : ∀ c ∈ run, isBlank c = false) :
    (!run.isEmpty && !run.any isBlank) = true := by
  have hNone : run.any isBlank = false := by
    rw [List.any_eq_false]
    intro c hMem
    rw [hSolid c hMem]
    decide
  rw [hNone, List.isEmpty_eq_false_iff.mpr hRun]
  rfl

/-- The unit of words has a token, in any grammar, for a word that is over. -/
theorem offer_word {units : List GrammarUnit} {index : Nat}
    {buffer : TokenBuffer} (hUnit : units[index]? = some (.word buffer)) (hRun : run ≠ [])
    (hSolid : ∀ c ∈ run, isBlank c = false) :
    offer units (.between before run rest) index =
      if (Scanner.between before run rest).atBoundary
      then some (Token.leaf .word run before.length) else none := by
  have hBuffer : (!(TokenBuffer.ofText before.length run).value.any isBlank) =
      true := (Bool.and_eq_true_iff.mp (holds_solid hRun hSolid)).2
  rw [offer_at hUnit, GrammarUnit.seeded_word, GrammarUnit.token?, hBuffer,
    Bool.and_true, TokenBuffer.token?_ofText, if_neg hRun]

end Words

/-- The triples' unit has a token where the triple is whole. -/
private theorem offer_eq_ite (hRun : run ≠ []) :
    offer phraseUnits (.between before run rest) 1 =
      if (rest = [] ∨ ((progress run).1 = .value ∧
          (QuoteState.ofText run).isOpen = false ∧
            (Scanner.between before run rest).separatorAhead = true))
      then Token.composite .matcher (split run before.length) else none := by
  rw [offer_at rfl, GrammarUnit.seeded_matcher, GrammarUnit.token?,
    MatcherTriple.token?, read_eq]
  simp only [complete, TokenBuffer.isEmpty_ofText, Scanner.atEnd_between,
    QuoteState.balanced, Bool.and_eq_true, Bool.or_eq_true, Bool.not_eq_true',
    List.isEmpty_iff, List.isEmpty_eq_false_iff.mpr hRun, beq_iff_eq, and_assoc,
    true_and]
  rfl

theorem offer_whole (hRun : run ≠ []) (hWhole : Whole run rest) :
    offer phraseUnits (.between before run rest) 1 =
      Token.composite .matcher (split run before.length) := by
  rw [offer_eq_ite hRun, if_pos]
  rw [separatorAhead_between]
  exact hWhole

theorem offer_partial (hRun : run ≠ []) (hPart : ¬ Whole run rest) :
    offer phraseUnits (.between before run rest) 1 = none := by
  rw [offer_eq_ite hRun, if_neg]
  rw [separatorAhead_between]
  exact hPart

/-- The connectives' unit has a token for a connective that is over. -/
theorem offer_connective (hRun : IsConnective run rest) :
    offer phraseUnits (.between before run rest) 0 =
      some (Token.leaf .separator run before.length) := by
  obtain ⟨hWord, hRest⟩ := hRun
  have hBuffer : Keyword.isSeparator
      (TokenBuffer.ofText before.length run).value = true := hWord
  rw [offer_at rfl, GrammarUnit.seeded_separator, GrammarUnit.token?, hBuffer,
    atBoundary_between.mpr hRest, TokenBuffer.token?_ofText,
    if_neg (ne_nil_of_isSeparator hWord)]
  rfl

end Units

/-! ## Pieces -/

/-- A run that is read as a triple before the rest. -/
structure IsTriple (run rest : Text) : Prop where
  ne_nil : run ≠ []
  starts : run.startsBlank = false
  whole : Whole run rest
  not_connective : ¬ IsConnective run rest
  /-- It is not over any earlier. -/
  passes : ∀ seen ahead, seen ≠ [] → ahead ≠ [] → seen ++ ahead = run →
    Passes seen (ahead ++ rest)

/-- A piece of a phrase between what is before it and the rest, with its token:
blanks up to the next word, a connective between blanks, or a triple. -/
inductive Piece (before run rest : Text) : Token → Prop
  | blanks : run ≠ [] → (∀ c ∈ run, isBlank c = true) →
    rest.startsBlank = false →
      Piece before run rest (Token.leaf .whitespace run before.length)
  | connective : Text.StartsWord before → IsConnective run rest →
    Piece before run rest (Token.leaf .separator run before.length)
  | triple {token : Token} : IsTriple run rest →
    Token.composite .matcher (split run before.length) = some token →
      Piece before run rest token

/-- The tokens of the rest of a text that is cut into pieces. -/
inductive Cut : Text → Text → List Token → Prop
  | nil (before : Text) : Cut before [] []
  | cons {before run rest : Text} {token : Token} {tokens : List Token} :
    Piece before run rest token → Cut (before ++ run) rest tokens →
      Cut before (run ++ rest) (token :: tokens)

theorem Piece.ne_nil {before run rest : Text} {token : Token}
    (h : Piece before run rest token) : run ≠ [] := by
  cases h with
  | blanks hRun _ _ => exact hRun
  | connective _ hRun => exact ne_nil_of_isSeparator hRun.1
  | triple hRun _ => exact hRun.ne_nil

/-! ## The lexer cuts -/

/-- Which unit reads the run pending at a place, and what is known of the run.
-/
inductive Pending (before rest : Text) : Text → Option Nat → Prop
  | none : Text.StartsWord before ∨ Text.EndsWord rest →
    Pending before rest [] none
  | triple {run : Text} : Text.StartsWord before → run ≠ [] →
    run.startsBlank = false →
    (∀ seen ahead, seen ≠ [] → seen ++ ahead = run →
      Passes seen (ahead ++ rest)) →
      Pending before rest run (some 1)
  | blanks {run : Text} : run ≠ [] → (∀ c ∈ run, isBlank c = true) →
    rest.startsBlank = true → Pending before rest run (some 2)

section Reading

variable {before run rest : Text} {active : Option Nat} {c : Char}

/-- A character of a word or of a triple. -/
private theorem cut_word (hActive : active = none ∨ active = some 1)
    (hBefore : Text.StartsWord before)
    (hStarts : (run ++ [c]).startsBlank = false)
    (hPasses : ∀ seen ahead, seen ≠ [] → ahead ≠ [] →
      seen ++ ahead = run ++ [c] → Passes seen (ahead ++ rest))
    (hLater : ∀ before run active, Pending before rest run active →
      Cut before (run ++ rest) (reading phraseUnits before run active rest)) :
    Cut before ((run ++ [c]) ++ rest)
      (reading phraseUnits before run active (c :: rest)) := by
  have hRun : run ++ [c] ≠ [] := by simp
  rw [reading]
  by_cases hConnective : IsConnective (run ++ [c]) rest
  · -- The connective is over, so it is taken from the triple.
    simp only [reader_connective hActive hBefore hConnective,
      offer_connective hConnective]
    have hRest := hLater (before ++ (run ++ [c])) [] none
      (.none (Or.inr hConnective.2))
    exact .cons (.connective hBefore hConnective) hRest
  · simp only [reader_triple hActive hRun hStarts hConnective]
    by_cases hWhole : Whole (run ++ [c]) rest
    · obtain ⟨token, hToken⟩ := exists_composite hRun before.length
      simp only [offer_whole hRun hWhole, hToken]
      have hTriple : IsTriple (run ++ [c]) rest :=
        ⟨hRun, hStarts, hWhole, hConnective, hPasses⟩
      have hRest := hLater (before ++ (run ++ [c])) [] none
        (.none (Or.inr hWhole.endsWord))
      exact .cons (.triple hTriple hToken) hRest
    · simp only [offer_partial hRun hWhole]
      refine hLater before (run ++ [c]) (some 1)
        (.triple hBefore hRun hStarts ?_)
      intro seen ahead hSeen hSplit
      by_cases hAhead : ahead = []
      · rw [hAhead, List.append_nil] at hSplit
        rw [hSplit, hAhead]
        exact ⟨hWhole, hConnective⟩
      · exact hPasses seen ahead hSeen hAhead hSplit

/-- A blank between words. -/
private theorem cut_blank (hActive : active = none ∨ active = some 2)
    (hBlank : ∀ d ∈ run ++ [c], isBlank d = true)
    (hLater : ∀ before run active, Pending before rest run active →
      Cut before (run ++ rest) (reading phraseUnits before run active rest)) :
    Cut before ((run ++ [c]) ++ rest)
      (reading phraseUnits before run active (c :: rest)) := by
  have hRun : run ++ [c] ≠ [] := by simp
  have hReader : reader phraseUnits (.between before (run ++ [c]) rest) active =
      2 :=
    reader_blanks rfl (by simp [phraseUnits, Grammar.units]) hActive hRun hBlank
  have hOffer := @offer_blanks before _ rest phraseUnits 2 _ rfl hRun hBlank
  rw [reading]
  simp only [hReader, hOffer]
  cases hRest : rest.startsBlank with
  | true => exact hLater before (run ++ [c]) (some 2) (.blanks hRun hBlank hRest)
  | false =>
      have hWords := hLater (before ++ (run ++ [c])) [] none
        (.none (Or.inl (Text.startsWord_of_blanks hRun hBlank)))
      exact .cons (.blanks hRun hBlank hRest) hWords

/-- **The tokens of a phrase are a cut of it.** The induction is on what has not
been read, for whichever unit reads the pending run. -/
theorem cut_reading (rest : Text) :
    ∀ (before run : Text) (active : Option Nat),
      Pending before rest run active →
        Cut before (run ++ rest)
          (reading phraseUnits before run active rest) := by
  induction rest with
  | nil =>
      intro before run active h
      cases h with
      | none _ => exact .nil before
      | triple _ hRun _ hPasses =>
          have hEnd := (hPasses run [] hRun (List.append_nil run)).not_whole
          exact absurd (Or.inl rfl) hEnd
      | blanks _ _ hRest => cases hRest
  | cons c rest ih =>
      intro before run active h
      have hText : run ++ c :: rest = (run ++ [c]) ++ rest := by simp
      rw [hText]
      cases h with
      | none hPlace =>
          cases hBlank : isBlank c with
          | true => exact cut_blank (Or.inl rfl) (by simpa using hBlank) ih
          | false =>
              have hBefore : Text.StartsWord before := by
                refine hPlace.resolve_right ?_
                rw [Text.endsWord_cons, hBlank]
                decide
              refine cut_word (Or.inl rfl) hBefore hBlank ?_ ih
              intro seen ahead hSeen hAhead hSplit
              rw [List.nil_append, List.append_eq_singleton_iff] at hSplit
              rcases hSplit with ⟨hNone, _⟩ | ⟨_, hNone⟩
              · exact absurd hNone hSeen
              · exact absurd hNone hAhead
      | triple hBefore hRun hStarts hPasses =>
          refine cut_word (Or.inr rfl) hBefore ?_ ?_ ih
          · rw [Text.startsBlank_append_of_ne_nil hRun]
            exact hStarts
          · intro seen ahead hSeen hAhead hSplit
            obtain ⟨others, last, hConcat⟩ :=
              (List.eq_nil_or_concat ahead).resolve_left hAhead
            rw [List.concat_eq_append] at hConcat
            rw [hConcat, ← List.append_assoc,
              List.append_singleton_inj] at hSplit
            have hPlace := hPasses seen others hSeen hSplit.1
            rw [hConcat, hSplit.2, List.append_assoc]
            exact hPlace
      | blanks _ hBlank hRest =>
          refine cut_blank (Or.inr rfl) ?_ ih
          intro d hMem
          rw [List.mem_append, List.mem_singleton] at hMem
          rcases hMem with hIn | hLast
          · exact hBlank d hIn
          · rw [hLast]
            exact hRest

end Reading

theorem cut_tokens (text : Text) : Cut [] text (Grammar.matcher.tokens text) := by
  have hCut := cut_reading text [] [] none (.none (Or.inl (Or.inl rfl)))
  rw [List.nil_append, ← tokens_eq_reading] at hCut
  exact hCut

/-! ## One cut only -/

section Unique

variable {before run rest : Text}

private theorem not_blank_of_solid {word : Text} (hWord : word ≠ [])
    (hSolid : word.startsBlank = false) :
    ¬ ∀ c ∈ word, isBlank c = true := by
  intro hBlank
  rw [Text.startsBlank_of_blanks hWord hBlank] at hSolid
  cases hSolid

/-- Where one piece is over, no other piece goes on. -/
private theorem Piece.not_longer {more rest : Text} {token token' : Token}
    (h : Piece before run (more ++ rest) token)
    (h' : Piece before (run ++ more) rest token') : more = [] := by
  by_contra hMore
  have hRun := h.ne_nil
  have hStart : (run ++ more).startsBlank = run.startsBlank :=
    Text.startsBlank_append_of_ne_nil hRun more
  have hAhead : (more ++ rest).startsBlank = more.startsBlank :=
    Text.startsBlank_append_of_ne_nil hMore rest
  cases h with
  | blanks _ hBlank hRest =>
      have hFirst := Text.startsBlank_of_blanks hRun hBlank
      cases h' with
      | blanks _ hAll _ =>
          rw [hAhead] at hRest
          exact not_blank_of_solid hMore hRest
            fun c hMem => hAll c (List.mem_append_right run hMem)
      | connective _ hConnective =>
          have hSolid := Text.startsBlank_of_word
            (Keyword.solid_of_isSeparator hConnective.1)
          rw [hStart, hFirst] at hSolid
          cases hSolid
      | triple hTriple _ =>
          have hSolid := hTriple.starts
          rw [hStart, hFirst] at hSolid
          cases hSolid
  | connective _ hConnective =>
      have hSolid := Text.startsBlank_of_word
        (Keyword.solid_of_isSeparator hConnective.1)
      cases h' with
      | blanks _ hAll _ =>
          exact not_blank_of_solid hRun hSolid
            fun c hMem => hAll c (List.mem_append_left more hMem)
      | connective _ hLonger =>
          have hWord := Keyword.solid_of_isSeparator hLonger.1
          have hStarts : more.startsBlank = false := Text.startsBlank_of_word
            fun c hMem => hWord c (List.mem_append_right run hMem)
          rcases hConnective.2 with hEnd | hBlank
          · simp [hMore] at hEnd
          · rw [hAhead, hStarts] at hBlank
            cases hBlank
      | triple hTriple _ =>
          exact (hTriple.passes run more hRun hMore rfl).not_connective
            hConnective
  | triple hTriple _ =>
      cases h' with
      | blanks _ hAll _ =>
          exact not_blank_of_solid hRun hTriple.starts
            fun c hMem => hAll c (List.mem_append_left more hMem)
      | connective _ hConnective =>
          have hWord := Keyword.solid_of_isSeparator hConnective.1
          have hStage := progress_solid
            fun c hMem => hWord c (List.mem_append_left more hMem)
          rcases hTriple.whole with hEnd | ⟨hValue, _⟩
          · simp [hMore] at hEnd
          · rw [hStage] at hValue
            cases hValue
      | triple hLonger _ =>
          exact (hLonger.passes run more hRun hMore rfl).not_whole hTriple.whole

/-- A piece has one token. -/
private theorem Piece.token_eq {token token' : Token}
    (h : Piece before run rest token) (h' : Piece before run rest token') :
    token = token' := by
  have hRun := h.ne_nil
  cases h with
  | blanks _ hBlank _ =>
      cases h' with
      | blanks _ _ _ => rfl
      | connective _ hConnective =>
          exact absurd hBlank (not_blank_of_solid hRun
            (Text.startsBlank_of_word
              (Keyword.solid_of_isSeparator hConnective.1)))
      | triple hTriple _ =>
          exact absurd hBlank (not_blank_of_solid hRun hTriple.starts)
  | connective _ hConnective =>
      cases h' with
      | blanks _ hBlank _ =>
          exact absurd hBlank (not_blank_of_solid hRun
            (Text.startsBlank_of_word
              (Keyword.solid_of_isSeparator hConnective.1)))
      | connective _ _ => rfl
      | triple hTriple _ => exact absurd hConnective hTriple.not_connective
  | triple hTriple hToken =>
      cases h' with
      | blanks _ hBlank _ =>
          exact absurd hBlank (not_blank_of_solid hRun hTriple.starts)
      | connective _ hConnective =>
          exact absurd hConnective hTriple.not_connective
      | triple _ hOther =>
          rw [hToken, Option.some.injEq] at hOther
          exact hOther

theorem Piece.unique {run' rest' : Text} {token token' : Token}
    (h : Piece before run rest token) (h' : Piece before run' rest' token')
    (hText : run ++ rest = run' ++ rest') :
    run = run' ∧ rest = rest' ∧ token = token' := by
  have hRun : run = run' ∧ rest = rest' := by
    rcases List.append_eq_append_iff.mp hText with
      ⟨more, hLonger, hRest⟩ | ⟨more, hLonger, hRest⟩
    · subst hLonger hRest
      have hNone := h.not_longer h'
      simp [hNone]
    · subst hLonger hRest
      have hNone := h'.not_longer h
      simp [hNone]
  obtain ⟨hSame, hAfter⟩ := hRun
  subst hSame hAfter
  exact ⟨rfl, rfl, h.token_eq h'⟩

/-- A piece at the front of a text is the first one of its cut. -/
theorem Cut.head {text : Text} {token : Token} {tokens : List Token}
    (h : Cut before text tokens) (hPiece : Piece before run rest token)
    (hText : text = run ++ rest) :
    ∃ others, tokens = token :: others ∧ Cut (before ++ run) rest others := by
  cases h with
  | nil =>
      rw [eq_comm, List.append_eq_nil_iff] at hText
      exact absurd hText.1 hPiece.ne_nil
  | cons hFirst hOthers =>
      obtain ⟨hRun, hRest, hToken⟩ := hFirst.unique hPiece hText
      subst hRun hRest hToken
      exact ⟨_, rfl, hOthers⟩

/-- Blanks and a connective in front of a text are its first two pieces. -/
theorem Cut.head_pieces {text blanks word others : Text} {tokens : List Token}
    (h : Cut before text tokens) (hText : text = blanks ++ (word ++ others))
    (hSome : blanks ≠ []) (hBlanks : ∀ c ∈ blanks, isBlank c = true)
    (hWord : IsConnective word others) :
    ∃ back, tokens = Token.leaf .whitespace blanks before.length ::
        Token.leaf .separator word (before ++ blanks).length :: back ∧
      Cut (before ++ blanks ++ word) others back := by
  obtain ⟨later, hTokens, hLater⟩ :=
    h.head (.blanks hSome hBlanks (startsBlank_of_isSeparator hWord.1)) hText
  have hStarts : Text.StartsWord (before ++ blanks) :=
    Text.startsWord_of_blanks hSome hBlanks
  obtain ⟨back, hNext, hBack⟩ := hLater.head (.connective hStarts hWord) rfl
  exact ⟨back, by rw [hTokens, hNext], hBack⟩

/-- **A text has one cut.** -/
theorem Cut.unique {tokens tokens' : List Token} (h : Cut before rest tokens) :
    Cut before rest tokens' → tokens = tokens' := by
  induction h generalizing tokens' with
  | nil before =>
      intro h'
      generalize hText : ([] : Text) = text at h'
      cases h' with
      | nil => rfl
      | cons hPiece _ =>
          rw [eq_comm, List.append_eq_nil_iff] at hText
          exact absurd hText.1 hPiece.ne_nil
  | cons hPiece _ ih =>
      intro h'
      obtain ⟨others, hTokens, hOthers⟩ := h'.head hPiece rfl
      rw [hTokens, ih hOthers]

/-- The tokens of a phrase are found by cutting it. -/
theorem tokens_eq_of_cut {text : Text} {tokens : List Token}
    (h : Cut [] text tokens) : Grammar.matcher.tokens text = tokens :=
  (cut_tokens text).unique h

end Unique

end QueryPhrase.Lexer
