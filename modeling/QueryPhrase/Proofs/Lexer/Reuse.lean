import QueryPhrase.Proofs.Lexer.Reading

/-!
# A lexer that has been used

The units of a lexer keep what they held when a text ended: buffers, stages,
second words, open quotes. The next text does not see any of it. Reading begins
by resetting every unit, a reset leaves nothing of a unit but its sort, and no
step of the lexer changes the sort of a unit or its place in the list.

The name of a unit stands for its sort. So the precedence of a lexer is all that
is left of it when the next text begins.

## Main results

* `Lexer.sameSorts_iff` — units are of the same sorts when their names are.
* `Lexer.SameSorts.tokenize` — reading a text keeps the sorts.
* `Lexer.tokenize_congr` — lexers of one precedence read a text alike.
* `Lexer.tokenizeAll_forgets` — so does a lexer that has read any texts before.
-/

namespace QueryPhrase

open Recognizer

/-- The name of a unit says which unit a reset makes of it. -/
theorem GrammarUnit.ofName?_name (unit : GrammarUnit) :
    ofName? unit.name = some (unit.reset 0) := by
  cases unit <;> rfl

namespace Lexer

/-- Units are of the same sorts just when they have the same names. -/
theorem sameSorts_iff {units recognizers : List GrammarUnit} :
    SameSorts units recognizers ↔
      recognizers.map GrammarUnit.name = units.map GrammarUnit.name := by
  constructor
  · intro hSorts
    have hName : ∀ unit : GrammarUnit,
        (unit.reset 0).name = unit.name := by
      intro unit
      cases unit <;> rfl
    have hNames := congrArg (List.map GrammarUnit.name) hSorts
    simpa only [List.map_map, Function.comp_def, hName] using hNames
  · intro hNames
    have hResets := congrArg (List.map GrammarUnit.ofName?) hNames
    simp only [List.map_map, Function.comp_def,
      GrammarUnit.ofName?_name] at hResets
    rw [SameSorts, ← List.map_inj_right (f := some) fun _ _ => Option.some.inj]
    simpa only [List.map_map, Function.comp_def] using hResets

/-! ## Every step keeps the sorts -/

section Steps

variable {units recognizers : List GrammarUnit} (s : Scanner)

theorem SameSorts.ask (h : SameSorts units recognizers) (index : Nat) :
    SameSorts units (ask s index recognizers).2 :=
  h.modify index fun _ => rfl

theorem SameSorts.activate (h : SameSorts units recognizers)
    (active : Option Nat) (c : Char) :
    SameSorts units (activate s active recognizers c).2 := by
  cases active with
  | none => exact (h.seed s _).sameSorts
  | some index =>
      have hFed : SameSorts units (recognizers.modify index (append · c)) :=
        h.modify index fun unit => GrammarUnit.reset_append unit 0 c
      simp only [Lexer.activate]
      split
      · next other _ => exact (hFed.seed s other).sameSorts
      · exact hFed

theorem SameSorts.step {state : State GrammarUnit}
    (h : SameSorts units state.recognizers) (c : Char) :
    SameSorts units (step state c).recognizers := by
  have hFed := h.activate state.scanner.advance state.active c
  have hAsked := hFed.ask state.scanner.advance
    (Lexer.activate state.scanner.advance state.active state.recognizers c).1
  simp only [Lexer.step]
  split
  · next hAsk =>
    rw [hAsk] at hAsked
    exact hAsked.resetAll _
  · next hAsk =>
    rw [hAsk] at hAsked
    exact hAsked

/-- The induction is on the places that are tried, for whatever the tries before
have left of the units. -/
theorem SameSorts.retry (places : List Nat) :
    ∀ {recognizers : List GrammarUnit}, SameSorts units recognizers →
      SameSorts units (retry s places recognizers).2 := by
  induction places with
  | nil => exact fun h => h
  | cons index places ih =>
      intro recognizers h
      have hAsked := (h.seed s index).sameSorts.ask s index
      rw [Lexer.retry]
      split
      · next hAsk =>
        rw [hAsk] at hAsked
        exact hAsked
      · next hAsk =>
        rw [hAsk] at hAsked
        exact ih hAsked

theorem SameSorts.flush (h : SameSorts units recognizers) (active : Nat) :
    SameSorts units (flush s active recognizers).2 := by
  have hAsked := h.ask s active
  rw [Lexer.flush]
  split
  · next hAsk =>
    rw [hAsk] at hAsked
    exact hAsked
  · next asked hAsk =>
    rw [hAsk] at hAsked
    have hTried := hAsked.retry s
      ((List.range asked.length).filter (· != active))
    dsimp only
    split
    · next hRetry =>
      rw [hRetry] at hTried
      exact hTried
    · next hRetry =>
      rw [hRetry] at hTried
      exact hTried

end Steps

theorem SameSorts.foldl_step {units : List GrammarUnit} (text : Text) :
    ∀ {state : State GrammarUnit}, SameSorts units state.recognizers →
      SameSorts units (text.foldl Lexer.step state).recognizers := by
  induction text with
  | nil => exact fun h => h
  | cons c rest ih => exact fun h => ih (h.step c)

/-- **Reading a text keeps the sorts** of the units and their order. -/
theorem SameSorts.tokenize {units : List GrammarUnit}
    {lexer : Lexer GrammarUnit} (h : SameSorts units lexer.recognizers)
    (text : Text) :
    SameSorts units (lexer.tokenize text).2.recognizers := by
  have hBegin : SameSorts units (begin lexer text).recognizers := h.resetAll 0
  have hRead := hBegin.foldl_step text
  simp only [Lexer.tokenize]
  split
  · exact hRead
  · exact hRead.flush _ _

/-! ## Texts one after the other -/

variable {used fresh : Lexer GrammarUnit}

theorem precedence_tokenize (lexer : Lexer GrammarUnit) (text : Text) :
    (lexer.tokenize text).2.precedence = lexer.precedence :=
  sameSorts_iff.mp (SameSorts.tokenize rfl text)

theorem precedence_tokenizeAll (texts : List Text) :
    ∀ lexer : Lexer GrammarUnit,
      (lexer.tokenizeAll texts).2.precedence = lexer.precedence := by
  induction texts with
  | nil => exact fun _ => rfl
  | cons text rest ih =>
      intro lexer
      exact (ih _).trans (precedence_tokenize lexer text)

/-- Lexers of one precedence read a text alike: when its first character comes
they are in the same state. -/
theorem tokenize_congr (hUnits : used.precedence = fresh.precedence)
    (text : Text) : used.tokenize text = fresh.tokenize text := by
  have hSorts : SameSorts fresh.recognizers used.recognizers :=
    sameSorts_iff.mpr hUnits
  have hBegin : begin used text = begin fresh text := by
    simp only [begin, reset]
    rw [hSorts]
  simp only [Lexer.tokenize, hBegin]

/-- **A lexer has no memory.** Let a lexer be in any state, and let it read any
texts. It then reads a further text as a lexer does that was just built of the
same units in the same order: with the same tokens, and leaving the same states
behind. So all the texts have the tokens that each of them has alone. -/
theorem tokenizeAll_forgets (hUnits : used.precedence = fresh.precedence)
    (texts : List Text) (text : Text) :
    (used.tokenizeAll texts).2.tokenize text = fresh.tokenize text ∧
      (used.tokenizeAll texts).1 = texts.map fresh.tokens := by
  refine ⟨tokenize_congr ((precedence_tokenizeAll texts used).trans hUnits)
    text, ?_⟩
  induction texts generalizing used with
  | nil => rfl
  | cons first rest ih =>
      have hFirst : (used.tokenize first).1 = fresh.tokens first :=
        congrArg Prod.fst (tokenize_congr hUnits first)
      have hRest := ih ((precedence_tokenize used first).trans hUnits)
      rw [List.map_cons, ← hFirst, ← hRest]
      rfl

/-- A lexer of phrases that stopped inside a quoted value still holds the open
quote. It reads the next phrases as a new one does. -/
theorem tokenizeAll_forgets_of_quoted :
    let fresh := Grammar.matcher.lexer
    let used := (fresh.tokenize "name like \"a or").2
    used.recognizers ≠ fresh.recognizers ∧
      used.precedence = fresh.precedence ∧
      (used.tokenizeAll ["or", "a is"]).2.tokenize "x = 1" =
        fresh.tokenize "x = 1" := by
  intro fresh used
  have hUnits : used.precedence = fresh.precedence := by decide
  exact ⟨by decide, hUnits, (tokenizeAll_forgets hUnits _ _).1⟩

end Lexer

end QueryPhrase
