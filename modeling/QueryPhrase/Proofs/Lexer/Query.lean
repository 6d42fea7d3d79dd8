import QueryPhrase.Proofs.Lexer.Cut
import QueryPhrase.Proofs.Lexer.Tiling
import QueryPhrase.Proofs.Text.Quoted

/-!
# How a boolean query is cut

The lexer of boolean queries has four units: one for field terms, one for
operators, one for words and one for blanks. Its tokens, too, can be said
without following it. A piece is all blanks up to the next word, an operator or
a word up to the next blank, or a field term up to where its value is whole.

What makes field terms hard is that none is known as one from its first
character. A run begins as a word, and where a colon comes next the unit of
field terms takes it over with all its characters at once. So no value is asked
whether it is whole before the term is opened. A term with a field is opened
before its first colon, when there is no value yet. A term without one begins
with its colon; it is opened before another colon, and what stands between the
two, `late` below, is part of the value by then.

## Main definitions

* `Lexer.ValueEnds`, `Lexer.TermOver` — where the value of a field term is whole,
  and where the term is.
* `Lexer.IsFieldTerm` — the parts of a run that is read as a field term.
* `Lexer.QueryPiece` — the pieces of a query, and the token of each.

## Main results

* `Lexer.pieces_reading` — the tokens that the lexer gives cut the text.
* `Lexer.pieces_tokens` — so do those of every query.
-/

namespace QueryPhrase.Lexer

/-- The units of boolean queries: field terms, operators, words and blanks. -/
abbrev queryUnits : List GrammarUnit := Grammar.field.units

/-! ## Places -/

/-- Before the rest a value is whole: a phrase where it is closed, any other
value where a blank comes next, and either at the end of the text. -/
def ValueEnds (value rest : Text) : Prop :=
  rest = [] ∨ if isPhrase value then closesPhrase value = true
    else rest.startsBlank = true

/-- Before the rest a run is a whole field term. -/
def TermOver (run rest : Text) : Prop :=
  ∃ name value, run = name ++ ':' :: value ∧ ':' ∉ name ∧ ValueEnds value rest

/-- A colon comes next, so a run is taken for a field term. It has no blank in
it, and a colon at most at its front. -/
structure Opens (run rest : Text) : Prop where
  ne_nil : run ≠ []
  solid : ∀ c ∈ run, isBlank c = false
  colon : ':' ∉ run.tail
  next : rest.head? = some ':'

/-- A field term that was opened behind `opening` has been read on, and it was
not whole anywhere on the way. -/
structure Reads (opening ahead rest : Text) : Prop where
  opens : Opens opening (ahead ++ rest)
  passes : ∀ front back, front ++ back = ahead → back ≠ [] →
    ¬ TermOver (opening ++ front) (back ++ rest)

/-- The parts of a field term before the rest: its field, which may be missing,
and its value in two pieces, before and after the place where it was opened. -/
structure IsFieldTerm (name late others rest : Text) : Prop where
  name_solid : ∀ c ∈ name, isBlank c = false
  name_colon : ':' ∉ name
  late_solid : ∀ c ∈ late, isBlank c = false
  late_colon : ':' ∉ late
  /-- With a field the term is opened before its value begins. -/
  named : name ≠ [] → late = []
  /-- Without one it is opened where another colon comes next. -/
  unnamed : name = [] → (others ++ rest).head? = some ':'
  /-- Its value is not whole any earlier. -/
  passes : ∀ front back, front ++ back = others → back ≠ [] →
    ¬ ValueEnds (late ++ front) (back ++ rest)
  ends : ValueEnds (late ++ others) rest

/-- The groups of a field term; those that are empty have no token. -/
def termGroups (name value : Text) : List (TokenKind × Text) :=
  [(.field, name), (.delimiter, [':']), (.value, value)]

/-- A piece of a query between what is before it and the rest, with its token:
all blanks up to the next word, an operator, a word or a field term. -/
inductive QueryPiece (before run rest : Text) : Token → Prop
  | blanks : run ≠ [] → Text.EndsSolid before →
    (∀ c ∈ run, isBlank c = true) → rest.startsBlank = false →
      QueryPiece before run rest (Token.leaf .whitespace run before.length)
  | operator : Keyword.isBooleanOperator run = true → Text.EndsWord rest →
    QueryPiece before run rest (Token.leaf .operator run before.length)
  | word : run ≠ [] → (∀ c ∈ run, isBlank c = false) → ':' ∉ run.tail →
    Keyword.isBooleanOperator run = false → Text.EndsWord rest →
      QueryPiece before run rest (Token.leaf .word run before.length)
  | term {name late others : Text} {token : Token} :
    IsFieldTerm name late others rest → run = name ++ ':' :: (late ++ others) →
      Token.composite .term (MatcherTriple.leaves
        (termGroups name (late ++ others)) before.length) = some token →
        QueryPiece before run rest token

/-! ## Field terms -/

section FieldTerm

variable {name late others rest value run opening ahead : Text}

/-- A value that is no phrase is whole where a word is over. -/
theorem ValueEnds.endsWord (h : ValueEnds value rest)
    (hPhrase : isPhrase value = false) : Text.EndsWord rest := by
  rw [ValueEnds, hPhrase] at h
  exact h

theorem valueEnds_of_endsWord (hPhrase : isPhrase value = false)
    (hRest : Text.EndsWord rest) : ValueEnds value rest := by
  rw [ValueEnds, hPhrase]
  exact hRest

/-- A phrase is whole at the end of the text or where it is closed. -/
theorem ValueEnds.closes (h : ValueEnds value rest)
    (hPhrase : isPhrase value = true) (hRest : rest ≠ []) :
    closesPhrase value = true := by
  rw [ValueEnds, hPhrase] at h
  exact h.resolve_left hRest

theorem valueEnds_of_closes (hCloses : closesPhrase value = true) :
    ValueEnds value rest := by
  have hPhrase : isPhrase value = true := by
    unfold closesPhrase at hCloses
    split at hCloses
    · rfl
    · cases hCloses
  rw [ValueEnds, hPhrase]
  exact Or.inr hCloses

/-- A term is cut at its first colon. -/
theorem termOver_iff (hName : ':' ∉ name) :
    TermOver (name ++ ':' :: value) rest ↔ ValueEnds value rest := by
  constructor
  · rintro ⟨name', value', hRun, hName', hEnds⟩
    obtain ⟨_, hValue⟩ := Text.first_unique hName hName' hRun
    rw [hValue]
    exact hEnds
  · intro hEnds
    exact ⟨name, value, rfl, hName, hEnds⟩

/-- There is no blank in a value that is no phrase: the term would have been
whole in front of it. -/
theorem IsFieldTerm.bare (h : IsFieldTerm name late others rest)
    (hPhrase : isPhrase (late ++ others) = false) :
    ∀ c ∈ late ++ others, isBlank c = false := by
  intro c hMem
  rcases List.mem_append.mp hMem with hLate | hOthers
  · exact h.late_solid c hLate
  · obtain ⟨front, back, hSplit⟩ := List.append_of_mem hOthers
    have hFront : isPhrase (late ++ front) = false := by
      by_cases hNil : late ++ front = []
      · rw [hNil]
        rfl
      · have hWhole := isPhrase_append hNil (c :: back)
        rw [List.append_assoc, ← hSplit, hPhrase] at hWhole
        exact hWhole.symm
    have hPlace := h.passes front (c :: back) hSplit.symm (List.cons_ne_nil c back)
    by_contra hBlank
    rw [Bool.not_eq_false] at hBlank
    exact hPlace (valueEnds_of_endsWord hFront (Text.endsWord_cons.mpr hBlank))

/-- A term that something follows does not end in a blank. -/
theorem IsFieldTerm.endsSolid (h : IsFieldTerm name late others rest)
    (hRest : rest ≠ []) (before : Text) :
    Text.EndsSolid (before ++ (name ++ ':' :: (late ++ others))) := by
  rw [← List.append_assoc, Text.endsSolid_append (List.cons_ne_nil _ _)]
  cases hPhrase : isPhrase (late ++ others) with
  | false =>
      apply Text.endsSolid_of_word
      rw [List.forall_mem_cons]
      exact ⟨by decide, h.bare hPhrase⟩
  | true =>
      have hCloses := h.ends.closes hPhrase hRest
      unfold closesPhrase at hCloses
      split at hCloses
      · next inner hValue =>
        rw [Bool.and_eq_true, beq_iff_eq] at hCloses
        obtain ⟨front, hFront⟩ := List.getLast?_eq_some_iff.mp hCloses.1
        rw [hValue, hFront]
        exact Text.endsSolid_concat (':' :: '"' :: front) (by decide)
      · cases hCloses

/-- **A run that has been read as a field term** has the parts of one. It is cut
at its first colon, which is the colon at its front or the one that comes next
where the term is opened. -/
theorem Reads.isFieldTerm (h : Reads opening ahead rest)
    (hRun : opening ++ ahead = name ++ ':' :: value) (hName : ':' ∉ name)
    (hEnds : ValueEnds value rest) :
    ∃ late others, value = late ++ others ∧
      IsFieldTerm name late others rest := by
  have hOpens := h.opens
  obtain ⟨c, late, hOpening⟩ := List.exists_cons_of_ne_nil hOpens.ne_nil
  have hLate : ':' ∉ late := by simpa [hOpening] using hOpens.colon
  by_cases hFirst : c = ':'
  · -- The term begins with its colon, and the one that comes next is in the value.
    have hCut : [] ++ ':' :: (late ++ ahead) = name ++ ':' :: value := by
      rw [← hRun, hOpening, hFirst]
      rfl
    obtain ⟨hNil, hValue⟩ := Text.first_unique List.not_mem_nil hName hCut
    refine ⟨late, ahead, hValue.symm, ?_⟩
    subst hNil hValue
    refine ⟨by simp, hName, ?_, hLate, fun hSome => absurd rfl hSome,
      fun _ => hOpens.next, ?_, hEnds⟩
    · exact fun d hMem => hOpens.solid d (by simp [hOpening, hMem])
    · intro front back hSplit hBack hWhole
      apply h.passes front back hSplit hBack
      rw [hOpening, hFirst, List.cons_append]
      exact (termOver_iff List.not_mem_nil).mpr hWhole
  · -- The term begins with its field, and the colon that comes next is the first.
    have hColon : ':' ∉ opening := by
      rw [hOpening, List.mem_cons]
      rintro (hHead | hTail)
      · exact hFirst hHead.symm
      · exact hLate hTail
    have hAhead : ∃ others, ahead = ':' :: others := by
      cases ahead with
      | nil =>
          rw [List.append_nil] at hRun
          exact absurd (by simp [hRun]) hColon
      | cons d others =>
          have hNext := hOpens.next
          rw [List.cons_append, List.head?_cons, Option.some.injEq] at hNext
          exact ⟨others, by rw [hNext]⟩
    obtain ⟨others, hAhead⟩ := hAhead
    rw [hAhead] at hRun
    obtain ⟨hSame, hValue⟩ := Text.first_unique hColon hName hRun
    subst hSame hValue
    refine ⟨[], others, rfl, hOpens.solid, hColon, by simp, by simp, fun _ => rfl,
      fun hNil => absurd hNil hOpens.ne_nil, ?_, hEnds⟩
    intro front back hSplit hBack hWhole
    apply h.passes (':' :: front) back (by rw [hAhead, ← hSplit]; rfl) hBack
    exact (termOver_iff hColon).mpr hWhole

/-- Reading on past a place where the term is not whole. -/
theorem Reads.concat {c : Char} (h : Reads opening ahead (c :: rest))
    (hPart : ¬ TermOver (opening ++ ahead) (c :: rest)) :
    Reads opening (ahead ++ [c]) rest := by
  refine ⟨?_, ?_⟩
  · rw [List.append_assoc]
    exact h.opens
  · intro front back hSplit hBack
    obtain ⟨between, last, hConcat⟩ :=
      (List.eq_nil_or_concat back).resolve_left hBack
    rw [List.concat_eq_append] at hConcat
    rw [hConcat, ← List.append_assoc, List.append_singleton_inj] at hSplit
    obtain ⟨hAhead, hLast⟩ := hSplit
    rw [hConcat, hLast, List.append_assoc, List.singleton_append]
    by_cases hNil : between = []
    · rw [hNil, List.append_nil] at hAhead
      rw [hNil, hAhead]
      exact hPart
    · exact h.passes front between hAhead hNil

/-- A term is whole at the end of the text, for its colon has been read. -/
theorem Reads.termOver_nil (h : Reads opening ahead []) :
    TermOver (opening ++ ahead) [] := by
  have hNext := h.opens.next
  rw [List.append_nil] at hNext
  have hColon : ':' ∈ opening ++ ahead :=
    List.mem_append_right opening (List.mem_of_head? hNext)
  obtain ⟨name, value, hRun, hName⟩ := List.eq_append_cons_of_mem hColon
  exact ⟨name, value, hRun, hName, Or.inl rfl⟩

end FieldTerm

/-! ## Who reads, and when there is a token -/

section Units

variable {before run rest name value : Text} {active : Option Nat}

private theorem startsWithAny_colon :
    (Scanner.between before run rest).startsWithAny [":"] =
      (rest.head? == some ':') := by
  rw [Scanner.startsWithAny, Scanner.rest_between]
  cases rest with
  | nil => rfl
  | cons c others => simp [List.isPrefixOf, Bool.beq_comm]

/-- A run without blanks is taken for a field term where a colon comes next. -/
private theorem locks_field (hRun : run ≠ [])
    (hSolid : ∀ c ∈ run, isBlank c = false) :
    FieldTerm.locks (.between before run rest) = (rest.head? == some ':') := by
  rw [FieldTerm.locks, Scanner.run_between, holds_solid hRun hSolid,
    Bool.true_and, startsWithAny_colon]

/-- It is read by the unit of field terms there, by that of operators where it
is one and is over, and by that of words elsewhere. -/
private theorem reader_unblank (hActive : active = none ∨ active = some 2)
    (hRun : run ≠ []) (hSolid : ∀ c ∈ run, isBlank c = false) :
    reader queryUnits (.between before run rest) active =
      if rest.head? == some ':' then 0
      else if Keyword.isBooleanOperator run &&
        (Scanner.between before run rest).atBoundary then 1
      else 2 := by
  have hField : FieldTerm.locks (.between before run rest) =
      (rest.head? == some ':') := locks_field hRun hSolid
  have hWord := holds_solid hRun hSolid
  rcases hActive with hNone | hSome
  · subst hNone
    simp only [reader, firstLock, queryUnits, Grammar.units, Recognizer.locks,
      GrammarUnit.locks, List.findIdx?_cons, hField, Scanner.run_between, hWord]
    split
    · rfl
    · split <;> rfl
  · subst hSome
    simp only [reader, firstLock, queryUnits, Grammar.units, Recognizer.locks,
      GrammarUnit.locks, List.take_succ_cons, List.take_zero,
      List.findIdx?_cons, List.findIdx?_nil, hField, Scanner.run_between]
    split
    · rfl
    · split <;> rfl

theorem reader_opens (hActive : active = none ∨ active = some 2)
    (hOpens : Opens run rest) :
    reader queryUnits (.between before run rest) active = 0 := by
  rw [reader_unblank hActive hOpens.ne_nil hOpens.solid, hOpens.next]
  rfl

theorem reader_operator (hActive : active = none ∨ active = some 2)
    (hWord : Keyword.isBooleanOperator run = true) (hRest : Text.EndsWord rest) :
    reader queryUnits (.between before run rest) active = 1 := by
  obtain ⟨hRun, hSolid⟩ := Keyword.solid_of_isBooleanOperator hWord
  have hColon : (rest.head? == some ':') = false := by
    rw [beq_eq_false_iff_ne]
    intro hNext
    obtain ⟨others, hCons⟩ := List.head?_eq_some_iff.mp hNext
    rw [hCons, Text.endsWord_cons] at hRest
    exact absurd hRest (by decide)
  rw [reader_unblank hActive hRun hSolid, hColon, hWord,
    atBoundary_between.mpr hRest]
  rfl

theorem reader_word (hActive : active = none ∨ active = some 2)
    (hRun : run ≠ []) (hSolid : ∀ c ∈ run, isBlank c = false)
    (hColon : rest.head? ≠ some ':')
    (hOther : ¬ (Keyword.isBooleanOperator run = true ∧ Text.EndsWord rest)) :
    reader queryUnits (.between before run rest) active = 2 := by
  rw [reader_unblank hActive hRun hSolid, beq_eq_false_iff_ne.mpr hColon,
    if_neg Bool.false_ne_true, if_neg]
  rw [Bool.and_eq_true, atBoundary_between]
  exact hOther

/-- A field term keeps the run to its end. -/
theorem reader_term : reader queryUnits (.between before run rest) (some 0) = 0 :=
  rfl

private theorem complete_read (hName : ':' ∉ name) :
    (FieldTerm.read before.length (name ++ ':' :: value)).complete
        (.between before run rest) = true ↔ ValueEnds value rest := by
  cases value with
  | nil =>
      rw [FieldTerm.read_colon hName]
      exact atBoundary_between
  | cons c others =>
      rw [FieldTerm.read_value hName, ValueEnds, isPhrase_cons]
      simp only [FieldTerm.complete, FieldTerm.valueComplete,
        Scanner.atEnd_between, Scanner.blankAhead_between, Bool.or_eq_true,
        List.isEmpty_iff]
      split <;> rfl

private theorem children_read (hName : ':' ∉ name) :
    (FieldTerm.read before.length (name ++ ':' :: value)).children =
      MatcherTriple.leaves (termGroups name value) before.length := by
  cases value with
  | nil =>
      rw [FieldTerm.children_read_colon hName]
      rfl
  | cons c others => exact FieldTerm.children_read_value hName c others

/-- The unit of field terms has a token where the term is whole. -/
theorem offer_term (hName : ':' ∉ name) (hEnds : ValueEnds value rest) :
    offer queryUnits (.between before (name ++ ':' :: value) rest) 0 =
      Token.composite .term
        (MatcherTriple.leaves (termGroups name value) before.length) := by
  rw [offer_at rfl, GrammarUnit.seeded_field, GrammarUnit.token?,
    FieldTerm.token?, if_pos ((complete_read hName).mpr hEnds),
    children_read hName]

theorem offer_term_part (hPart : ¬ TermOver run rest) :
    offer queryUnits (.between before run rest) 0 = none := by
  rw [offer_at rfl, GrammarUnit.seeded_field, GrammarUnit.token?,
    FieldTerm.token?, if_neg]
  intro hComplete
  by_cases hColon : ':' ∈ run
  · obtain ⟨name, value, hRun, hName⟩ := List.eq_append_cons_of_mem hColon
    subst hRun
    exact hPart ((termOver_iff hName).mpr ((complete_read hName).mp hComplete))
  · rw [FieldTerm.read_of_not_mem hColon] at hComplete
    cases hComplete

/-- A field term has a token: there is a colon in it. -/
theorem exists_composite_term (name value : Text) (start : Nat) :
    ∃ token, Token.composite .term
      (MatcherTriple.leaves (termGroups name value) start) = some token :=
  MatcherTriple.exists_composite_leaves .term
    ⟨(.delimiter, [':']), by simp [termGroups], List.cons_ne_nil _ _⟩ start

theorem offer_operator (hWord : Keyword.isBooleanOperator run = true)
    (hRest : Text.EndsWord rest) :
    offer queryUnits (.between before run rest) 1 =
      some (Token.leaf .operator run before.length) := by
  have hBuffer : Keyword.isBooleanOperator
      (TokenBuffer.ofText before.length run).value = true := hWord
  rw [offer_at rfl, GrammarUnit.seeded_operator, GrammarUnit.token?, hBuffer,
    atBoundary_between.mpr hRest, TokenBuffer.token?_ofText,
    if_neg (Keyword.solid_of_isBooleanOperator hWord).1]
  rfl

end Units

/-! ## The lexer cuts -/

/-- Which unit reads the run pending at a place, and what is known of the run.
-/
inductive QueryPending (before rest : Text) : Text → Option Nat → Prop
  | none : Text.EndsSolid before ∨ rest.startsBlank = false →
    QueryPending before rest [] none
  | word {run : Text} : run ≠ [] → (∀ c ∈ run, isBlank c = false) →
    ':' ∉ run.tail → ¬ Text.EndsWord rest → rest.head? ≠ some ':' →
      QueryPending before rest run (some 2)
  | term {opening ahead : Text} : Reads opening ahead rest →
    ¬ TermOver (opening ++ ahead) rest →
      QueryPending before rest (opening ++ ahead) (some 0)
  | blanks {run : Text} : run ≠ [] → Text.EndsSolid before →
    (∀ c ∈ run, isBlank c = true) → rest.startsBlank = true →
      QueryPending before rest run (some 3)

section Reading

variable {before run rest opening ahead : Text} {active : Option Nat} {c : Char}
  (hLater : ∀ before run active, QueryPending before rest run active →
    Pieces QueryPiece before (run ++ rest)
      (reading queryUnits before run active rest))

include hLater

/-- A character of a field term. -/
private theorem pieces_term (hReads : Reads opening ahead rest)
    (hRun : opening ++ ahead = run ++ [c])
    (hReader : reader queryUnits (.between before (run ++ [c]) rest) active = 0) :
    Pieces QueryPiece before ((run ++ [c]) ++ rest)
      (reading queryUnits before run active (c :: rest)) := by
  rw [reading]
  simp only [hReader]
  by_cases hOver : TermOver (run ++ [c]) rest
  · obtain ⟨name, value, hSplit, hName, hEnds⟩ := hOver
    obtain ⟨late, others, hValue, hTerm⟩ :=
      hReads.isFieldTerm (hRun.trans hSplit) hName hEnds
    rw [hValue] at hSplit hEnds
    obtain ⟨token, hToken⟩ :=
      exists_composite_term name (late ++ others) before.length
    have hOffer : offer queryUnits (.between before (run ++ [c]) rest) 0 =
        some token := by
      rw [hSplit, offer_term hName hEnds, hToken]
    simp only [hOffer]
    have hNext : Text.EndsSolid (before ++ (run ++ [c])) ∨
        rest.startsBlank = false := by
      by_cases hRest : rest = []
      · right
        rw [hRest]
        rfl
      · left
        rw [hSplit]
        exact hTerm.endsSolid hRest before
    exact .cons (.term hTerm hSplit hToken) (hLater _ _ _ (.none hNext))
  · simp only [offer_term_part hOver]
    rw [← hRun] at hOver ⊢
    exact hLater before _ _ (.term hReads hOver)

/-- A character of a word, which may turn out to be that of a field term. -/
private theorem pieces_word (hActive : active = none ∨ active = some 2)
    (hSolid : ∀ d ∈ run ++ [c], isBlank d = false)
    (hColon : ':' ∉ (run ++ [c]).tail) :
    Pieces QueryPiece before ((run ++ [c]) ++ rest)
      (reading queryUnits before run active (c :: rest)) := by
  have hRun : run ++ [c] ≠ [] := by simp
  have hNext : Text.EndsSolid (before ++ (run ++ [c])) := by
    rw [Text.endsSolid_append hRun]
    exact Text.endsSolid_of_word hSolid
  by_cases hOpening : rest.head? = some ':'
  · have hOpens : Opens (run ++ [c]) rest := ⟨hRun, hSolid, hColon, hOpening⟩
    have hReads : Reads (run ++ [c]) [] rest := by
      refine ⟨hOpens, ?_⟩
      intro front back hSplit hBack
      exact absurd (List.append_eq_nil_iff.mp hSplit).2 hBack
    exact pieces_term hLater hReads (List.append_nil _)
      (reader_opens hActive hOpens)
  · rw [reading]
    by_cases hOperator : Keyword.isBooleanOperator (run ++ [c]) = true ∧
        Text.EndsWord rest
    · simp only [reader_operator hActive hOperator.1 hOperator.2,
        offer_operator hOperator.1 hOperator.2]
      exact .cons (.operator hOperator.1 hOperator.2)
        (hLater _ _ _ (.none (Or.inl hNext)))
    · have hOffer := @offer_word before _ rest queryUnits 2 _ rfl hRun hSolid
      simp only [reader_word hActive hRun hSolid hOpening hOperator]
      by_cases hRest : Text.EndsWord rest
      · have hOther : Keyword.isBooleanOperator (run ++ [c]) = false := by
          rw [← Bool.not_eq_true]
          exact fun hKeyword => hOperator ⟨hKeyword, hRest⟩
        simp only [hOffer, if_pos (atBoundary_between.mpr hRest)]
        exact .cons (.word hRun hSolid hColon hOther hRest)
          (hLater _ _ _ (.none (Or.inl hNext)))
      · simp only [hOffer,
          if_neg fun hEnd => hRest (atBoundary_between.mp hEnd)]
        exact hLater before _ _ (.word hRun hSolid hColon hRest hOpening)

/-- A blank between words. -/
private theorem pieces_blank (hActive : active = none ∨ active = some 3)
    (hBefore : Text.EndsSolid before)
    (hBlank : ∀ d ∈ run ++ [c], isBlank d = true) :
    Pieces QueryPiece before ((run ++ [c]) ++ rest)
      (reading queryUnits before run active (c :: rest)) := by
  have hRun : run ++ [c] ≠ [] := by simp
  have hReader : reader queryUnits (.between before (run ++ [c]) rest) active =
      3 :=
    reader_blanks rfl (by simp [queryUnits, Grammar.units]) hActive hRun hBlank
  have hOffer := @offer_blanks before _ rest queryUnits 3 _ rfl hRun hBlank
  rw [reading]
  simp only [hReader, hOffer]
  cases hRest : rest.startsBlank with
  | true =>
      exact hLater before (run ++ [c]) (some 3)
        (.blanks hRun hBefore hBlank hRest)
  | false =>
      exact .cons (.blanks hRun hBefore hBlank hRest)
        (hLater _ _ _ (.none (Or.inr hRest)))

end Reading

/-- **The tokens of a query cut it.** The induction is on what has not been
read, for whichever unit reads the pending run. -/
theorem pieces_reading (rest : Text) :
    ∀ (before run : Text) (active : Option Nat),
      QueryPending before rest run active →
        Pieces QueryPiece before (run ++ rest)
          (reading queryUnits before run active rest) := by
  induction rest with
  | nil =>
      intro before run active h
      cases h with
      | none _ => exact .nil before
      | word _ _ _ hRest _ => exact absurd (Or.inl rfl) hRest
      | term hReads hPart => exact absurd hReads.termOver_nil hPart
      | blanks _ _ _ hRest => cases hRest
  | cons c rest ih =>
      intro before run active h
      have hText : run ++ c :: rest = (run ++ [c]) ++ rest := by simp
      rw [hText]
      cases h with
      | none hPlace =>
          cases hBlank : isBlank c with
          | true =>
              have hBefore := hPlace.resolve_right (by
                rw [Text.startsBlank_cons, hBlank]
                decide)
              exact pieces_blank ih (Or.inl rfl) hBefore (by simpa using hBlank)
          | false =>
              exact pieces_word ih (Or.inl rfl) (by simpa using hBlank) (by simp)
      | word hRun hSolid hColon hRest hNext =>
          rw [Text.endsWord_cons, Bool.not_eq_true] at hRest
          refine pieces_word ih (Or.inr rfl) ?_ ?_
          · rw [List.forall_mem_append, List.forall_mem_singleton]
            exact ⟨hSolid, hRest⟩
          · rw [List.tail_append_of_ne_nil hRun, List.mem_append,
              List.mem_singleton]
            rintro (hTail | hLast)
            · exact hColon hTail
            · exact hNext (by rw [hLast]; rfl)
      | @term opening ahead hReads hPart =>
          refine pieces_term ih (hReads.concat hPart) ?_ reader_term
          rw [List.append_assoc]
      | blanks hRun hBefore hBlank hRest =>
          refine pieces_blank ih (Or.inr rfl) hBefore ?_
          rw [List.forall_mem_append, List.forall_mem_singleton]
          exact ⟨hBlank, hRest⟩

theorem pieces_tokens (text : Text) :
    Pieces QueryPiece [] text (Grammar.field.tokens text) := by
  have hPieces := pieces_reading text [] [] none
    (.none (Or.inl Text.endsSolid_nil))
  rw [List.nil_append, ← tokens_eq_reading] at hPieces
  exact hPieces

end QueryPhrase.Lexer
