import QueryPhrase.Grammar

/-!
# The lexer without its recognizers' states

Every unit keeps buffers of its own, and only the active one is fed. Yet the
unit that is active always holds exactly the pending run: it was handed the run
when it took over and has read every character since. What the others hold never
matters, because a unit is reset before it is asked.

So the lexer is a function of the text alone. A place in the text is three
pieces, `before` the run, the `run` and the `rest`; `reading` goes through the
rest with nothing else in hand but which unit is active.

## Main definitions

* `Scanner.between` — the place given by three pieces of a text.
* `Lexer.reader`, `Lexer.offer`, `Lexer.closing` — the active unit, the token it
  has for the run, and the token that ends the text.
* `Lexer.reading` — the tokens of the rest of a text.

## Main results

* `Lexer.reader_of_locks`, `Lexer.offer_at` — which unit reads a run, and what it
  has for it.
* `Lexer.step_of_offer`, `Lexer.step_of_no_offer` — one character of the lexer
  is one character of `reading`, and the active unit is left holding the run.
* `Lexer.tokens_eq_reading` — the tokens of a text are those `reading` gives,
  from whatever state the units are in.
-/

namespace QueryPhrase

open Recognizer

/-! ## Places in three pieces -/

/-- The place in `before ++ run ++ rest` at which `run` is pending. -/
def Scanner.between (before run rest : Text) : Scanner where
  text := before ++ run ++ rest
  position := before.length + run.length
  start := before.length

namespace Scanner

variable (before run rest : Text) (c : Char)

@[simp] theorem start_between :
    (between before run rest).start = before.length := rfl

@[simp] theorem run_between : (between before run rest).run = run := by
  simp [between, Scanner.run, slice]

@[simp] theorem rest_between : (between before run rest).rest = rest := by
  have hLength : before.length + run.length = (before ++ run).length := by simp
  simp only [between, Scanner.rest, hLength, List.drop_left]

@[simp] theorem behind_between :
    (between before run rest).behind = before ++ run := by
  have hLength : before.length + run.length = (before ++ run).length := by simp
  simp only [between, Scanner.behind, hLength, List.take_left]

@[simp] theorem atEnd_between :
    (between before run rest).atEnd = rest.isEmpty := by
  rw [atEnd, rest_between]

@[simp] theorem blankAhead_between :
    (between before run rest).blankAhead = rest.startsBlank := by
  rw [blankAhead, rest_between]

@[simp] theorem advance_between :
    (between before run (c :: rest)).advance =
      between before (run ++ [c]) rest := by
  simp [between, advance, Nat.add_assoc]

@[simp] theorem mark_between :
    (between before run rest).mark = between (before ++ run) [] rest := by
  simp [between, mark]

end Scanner

/-! ## What a reset forgets -/

namespace GrammarUnit

variable (unit : GrammarUnit) (start other : Nat) (run : Text) (c : Char)

@[simp] theorem reset_reset :
    reset (reset unit start) other = reset unit other := by
  cases unit <;> rfl

@[simp] theorem reset_append :
    reset (append unit c) start = reset unit start := by
  cases unit <;> rfl

/-- Whether a unit takes over depends on its sort only, not on what it holds. -/
@[simp] theorem locks_reset (s : Scanner) :
    locks (reset unit start) s = locks unit s := by
  cases unit <;> rfl

@[simp] theorem reset_seeded :
    reset (seeded unit start run) other = reset unit other := by
  have hFold : ∀ (text : Text) (u : GrammarUnit),
      reset (text.foldl append u) other = reset u other := by
    intro text
    induction text with
    | nil => intro u; rfl
    | cons c rest ih =>
        intro u
        rw [List.foldl_cons, ih, reset_append]
  exact (hFold run (reset unit start)).trans (reset_reset unit start other)

@[simp] theorem seeded_reset :
    seeded (reset unit other) start run = seeded unit start run := by
  change run.foldl append (reset (reset unit other) start) = _
  rw [reset_reset]
  rfl

theorem seeded_append_singleton :
    seeded unit start (run ++ [c]) = append (seeded unit start run) c := by
  change (run ++ [c]).foldl append (reset unit start) = _
  rw [List.foldl_append]
  rfl

end GrammarUnit

namespace Lexer

/-! ## Reading with the text alone -/

/-- Which unit reads the run at a place when the one at `active`, if any, has
read it so far. -/
def reader (units : List GrammarUnit) (s : Scanner) : Option Nat → Nat
  | none => (firstLock s units).getD (units.length - 1)
  | some index => (firstLock s (units.take index)).getD index

/-- The token that the unit at `index` has for the pending run. -/
def offer (units : List GrammarUnit) (s : Scanner) (index : Nat) :
    Option Token :=
  units[index]?.bind fun unit => (seeded unit s.start s.run).token? s

/-- The token of the run that is pending at the end of the text: that of the
active unit, else of the first other unit that has one, else a word. -/
def closing (units : List GrammarUnit) (s : Scanner) (active : Nat) : Token :=
  ((active :: (List.range units.length).filter (· != active)).findSome?
    (offer units s)).getD (Token.leaf .word s.run s.start)

/-- The tokens of the rest of a text while the unit at `active`, if any, reads
the pending run. -/
def reading (units : List GrammarUnit) (before run : Text)
    (active : Option Nat) : Text → List Token
  | [] =>
    match active with
    | none => []
    | some index => [closing units (.between before run []) index]
  | c :: rest =>
    let s := Scanner.between before (run ++ [c]) rest
    let index := reader units s active
    match offer units s index with
    | some token => token :: reading units (before ++ (run ++ [c])) [] none rest
    | none => reading units before (run ++ [c]) (some index) rest

theorem offer_at {units : List GrammarUnit} {index : Nat} {unit : GrammarUnit}
    (hUnit : units[index]? = some unit) (before run rest : Text) :
    offer units (.between before run rest) index =
      (seeded unit before.length run).token? (.between before run rest) := by
  rw [offer, hUnit, Option.bind_some, Scanner.start_between, Scanner.run_between]

/-- A unit reads the run where it locks, or reads already, and none of those
before it locks. -/
theorem reader_of_locks {units : List GrammarUnit} {index : Nat}
    {unit : GrammarUnit} {s : Scanner} {active : Option Nat}
    (hUnit : units[index]? = some unit) (hLocks : unit.locks s = true)
    (hOthers : ∀ other ∈ units.take index, other.locks s = false)
    (hActive : active = none ∨ active = some index) :
    reader units s active = index := by
  obtain ⟨hIndex, hAt⟩ := List.getElem?_eq_some_iff.mp hUnit
  rcases hActive with hNone | hSome
  · have hFirst : firstLock s units = some index := by
      rw [firstLock, List.findIdx?_eq_some_iff_getElem]
      refine ⟨hIndex, by rw [hAt]; exact hLocks, ?_⟩
      intro j hj
      have hOther := hOthers units[j]
        (List.mem_take_iff_getElem.mpr ⟨j, by omega, rfl⟩)
      rw [Bool.not_eq_true]
      exact hOther
    rw [hNone, reader, hFirst, Option.getD_some]
  · have hFirst : firstLock s (units.take index) = none := by
      rw [firstLock, List.findIdx?_eq_none_iff]
      exact hOthers
    rw [hSome, reader, hFirst, Option.getD_none]

/-- Places at which every unit locks alike have one reader. -/
theorem reader_congr {units : List GrammarUnit} {s other : Scanner}
    (hLocks : ∀ unit ∈ units, unit.locks s = unit.locks other)
    (active : Option Nat) : reader units s active = reader units other active := by
  have hFirst : ∀ list : List GrammarUnit,
      (∀ unit ∈ list, unit.locks s = unit.locks other) →
        firstLock s list = firstLock other list := by
    intro list
    induction list with
    | nil => exact fun _ => rfl
    | cons unit rest ih =>
        intro hList
        rw [List.forall_mem_cons] at hList
        simp only [firstLock, List.findIdx?_cons] at ih ⊢
        simp only [Recognizer.locks] at ih ⊢
        rw [hList.1, ih hList.2]
  cases active with
  | none => rw [reader, reader, hFirst units hLocks]
  | some index =>
      rw [reader, reader, hFirst (units.take index)
        fun unit hUnit => hLocks unit (List.mem_of_mem_take hUnit)]

/-! ## Units that hold the run -/

/-- The units are of the given sorts, whatever they hold. -/
def SameSorts (units recognizers : List GrammarUnit) : Prop :=
  recognizers.map (GrammarUnit.reset · 0) = units.map (GrammarUnit.reset · 0)

/-- The units are of the given sorts, and the active one holds the pending run.
-/
structure Holding (units : List GrammarUnit) (start : Nat) (run : Text)
    (active : Option Nat) (recognizers : List GrammarUnit) : Prop where
  sameSorts : SameSorts units recognizers
  holds : ∀ index, active = some index →
    recognizers[index]? = units[index]?.map (seeded · start run)

section Sorts

variable {units recognizers : List GrammarUnit}

private theorem firstLock_map_reset (s : Scanner) (list : List GrammarUnit) :
    firstLock s (list.map (GrammarUnit.reset · 0)) = firstLock s list := by
  have hLocks : ((locks · s) : GrammarUnit → Bool) ∘ (GrammarUnit.reset · 0) =
      (locks · s) := by
    funext unit
    exact GrammarUnit.locks_reset unit 0 s
  rw [firstLock, List.findIdx?_map, hLocks]
  rfl

private theorem SameSorts.firstLock_eq (h : SameSorts units recognizers)
    (s : Scanner) : firstLock s recognizers = firstLock s units := by
  rw [← firstLock_map_reset, h, firstLock_map_reset]

private theorem SameSorts.take (h : SameSorts units recognizers) (n : Nat) :
    SameSorts (units.take n) (recognizers.take n) := by
  have hTake := congrArg (List.take n) h
  simpa only [SameSorts, List.map_take] using hTake

private theorem SameSorts.length_eq (h : SameSorts units recognizers) :
    recognizers.length = units.length := by
  simpa using congrArg List.length h

private theorem SameSorts.seeded_eq (h : SameSorts units recognizers)
    (index start : Nat) (run : Text) :
    recognizers[index]?.map (seeded · start run) =
      units[index]?.map (seeded · start run) := by
  have hReset : ∀ list : List GrammarUnit,
      list[index]?.map (seeded · start run) =
        (list.map (GrammarUnit.reset · 0))[index]?.map
          (seeded · start run) := by
    intro list
    rw [List.getElem?_map, Option.map_map]
    congr 1
    funext unit
    exact (GrammarUnit.seeded_reset unit start 0 run).symm
  rw [hReset recognizers, h, ← hReset units]

/-- Changing one unit in place keeps the sorts. -/
theorem SameSorts.modify (h : SameSorts units recognizers) (index : Nat)
    {f : GrammarUnit → GrammarUnit} (hf : ∀ u, (f u).reset 0 = u.reset 0) :
    SameSorts units (recognizers.modify index f) := by
  have hMap : (recognizers.modify index f).map (GrammarUnit.reset · 0) =
      recognizers.map (GrammarUnit.reset · 0) := by
    apply List.ext_getElem?
    intro i
    simp only [List.getElem?_map, List.getElem?_modify]
    by_cases hi : index = i
    · simp [hi, Function.comp_def, hf]
    · simp [hi]
  exact hMap.trans h

theorem SameSorts.resetAll (h : SameSorts units recognizers)
    (start : Nat) :
    SameSorts units (recognizers.map (GrammarUnit.reset · start)) := by
  have hMap : (recognizers.map (GrammarUnit.reset · start)).map
      (GrammarUnit.reset · 0) = recognizers.map (GrammarUnit.reset · 0) := by
    rw [List.map_map]
    congr 1
    funext unit
    exact GrammarUnit.reset_reset unit start 0
  exact hMap.trans h

/-- Whichever unit is handed the run holds it. -/
theorem SameSorts.seed (h : SameSorts units recognizers)
    (s : Scanner) (index : Nat) :
    Holding units s.start s.run (some index)
      (seed s index recognizers) where
  sameSorts := h.modify index fun unit => GrammarUnit.reset_seeded unit _ 0 _
  holds := by
    intro i hi
    cases hi
    rw [← h.seeded_eq, Lexer.seed, List.getElem?_modify]
    simp

end Sorts

/-- A unit that holds the run is asked with nothing but the run in hand, and
asking leaves no trace. -/
private theorem ask_eq_offer {units recognizers : List GrammarUnit}
    {s : Scanner}
    {index : Nat} (h : Holding units s.start s.run (some index) recognizers) :
    ask s index recognizers = (offer units s index, recognizers) := by
  have hHeld := h.holds index rfl
  have hAsked : recognizers.modify index (asked · s) = recognizers := by
    apply List.ext_getElem?
    intro i
    rw [List.getElem?_modify]
    by_cases hi : index = i <;> simp [hi, asked]
  rw [ask, hAsked, hHeld, offer, Option.bind_map]
  rfl

/-! ## One character -/

section Step

variable {units recognizers : List GrammarUnit} {before run : Text}
  {active : Option Nat}

/-- The unit chosen for a character is the one `reader` names, and it then holds
the run with the character. -/
private theorem activate_holding (rest : Text) (c : Char)
    (h : Holding units before.length run active recognizers) :
    let s := Scanner.between before (run ++ [c]) rest
    (activate s active recognizers c).1 = reader units s active ∧
      Holding units before.length (run ++ [c]) (some (reader units s active))
        (activate s active recognizers c).2 := by
  intro s
  have hSeed : ∀ (list : List GrammarUnit) (index : Nat),
      SameSorts units list →
        Holding units before.length (run ++ [c]) (some index)
          (seed s index list) := by
    intro list index hList
    simpa [s] using hList.seed s index
  cases active with
  | none =>
      have hFirst := h.sameSorts.firstLock_eq s
      have hLength := h.sameSorts.length_eq
      simp only [activate, reader, hFirst, hLength, true_and]
      exact hSeed recognizers _ h.sameSorts
  | some index =>
      have hFed : SameSorts units (recognizers.modify index (append · c)) :=
        h.sameSorts.modify index fun u => GrammarUnit.reset_append u 0 c
      have hFirst := (hFed.take index).firstLock_eq s
      simp only [activate, reader, hFirst]
      cases firstLock s (units.take index) with
      | some other => exact ⟨rfl, hSeed _ other hFed⟩
      | none =>
          refine ⟨rfl, hFed, ?_⟩
          intro i hi
          cases hi
          have hHeld := h.holds index rfl
          have hAppend : ((append · c) : GrammarUnit → GrammarUnit) ∘
              (seeded · before.length run) =
                (seeded · before.length (run ++ [c])) := by
            funext unit
            exact (GrammarUnit.seeded_append_singleton unit _ run c).symm
          rw [Option.getD_none, List.getElem?_modify, hHeld]
          simp [hAppend]

/-- The state after a character, with the chosen unit already asked. -/
private theorem step_eq (rest : Text) (c : Char) (tokens : List Token)
    {s : Scanner}
    (hs : Scanner.between before (run ++ [c]) rest = s)
    (h : Holding units before.length run active recognizers) :
    step ⟨.between before run (c :: rest), recognizers, active, tokens⟩ c =
      match offer units s (reader units s active) with
      | some token =>
        ⟨s.mark, (activate s active recognizers c).2.map
          (GrammarUnit.reset · s.position), none, tokens ++ [token]⟩
      | none =>
        ⟨s, (activate s active recognizers c).2,
          some (reader units s active), tokens⟩ := by
  obtain ⟨hReader, hHolding⟩ := activate_holding rest c h
  have hStart : before.length = s.start := by rw [← hs]; rfl
  have hRun : run ++ [c] = s.run := by rw [← hs, Scanner.run_between]
  rw [hs] at hReader hHolding
  rw [hStart, hRun] at hHolding
  have hAsk := ask_eq_offer hHolding
  simp only [step, Scanner.advance_between, hs, hReader, hAsk]
  cases offer units s (reader units s active) <;> rfl

/-- **A character that closes the run.** The unit that `reader` names has a
token: it is emitted and every unit starts afresh. -/
theorem step_of_offer {rest : Text} {c : Char} {token : Token}
    (tokens : List Token)
    (h : Holding units before.length run active recognizers)
    (hOffer : offer units (.between before (run ++ [c]) rest)
      (reader units (.between before (run ++ [c]) rest) active) = some token) :
    ∃ next, Holding units (before ++ (run ++ [c])).length [] none next ∧
      step ⟨.between before run (c :: rest), recognizers, active, tokens⟩ c =
        ⟨.between (before ++ (run ++ [c])) [] rest, next, none,
          tokens ++ [token]⟩ := by
  have hHolding := (activate_holding rest c h).2
  have hStep := step_eq rest c tokens rfl h
  simp only [hOffer, Scanner.mark_between] at hStep
  refine ⟨_, ⟨hHolding.sameSorts.resetAll _, ?_⟩, hStep⟩
  intro index hNone
  cases hNone

/-- **A character that continues the run.** The unit that `reader` names holds
the run with the character and has no token for it. -/
theorem step_of_no_offer {rest : Text} {c : Char} (tokens : List Token)
    (h : Holding units before.length run active recognizers)
    (hOffer : offer units (.between before (run ++ [c]) rest)
      (reader units (.between before (run ++ [c]) rest) active) = none) :
    ∃ next, Holding units before.length (run ++ [c])
        (some (reader units (.between before (run ++ [c]) rest) active)) next ∧
      step ⟨.between before run (c :: rest), recognizers, active, tokens⟩ c =
        ⟨.between before (run ++ [c]) rest, next,
          some (reader units (.between before (run ++ [c]) rest) active),
          tokens⟩ := by
  have hHolding := (activate_holding rest c h).2
  have hStep := step_eq rest c tokens rfl h
  simp only [hOffer] at hStep
  exact ⟨_, hHolding, hStep⟩

end Step

/-! ## The end of the text -/

section Close

variable {units : List GrammarUnit}

private theorem retry_eq_findSome? (s : Scanner) (places : List Nat) :
    ∀ recognizers : List GrammarUnit, SameSorts units recognizers →
      (retry s places recognizers).1 = places.findSome? (offer units s) := by
  induction places with
  | nil => intro recognizers _; rfl
  | cons index places ih =>
      intro recognizers h
      have hSeed := h.seed s index
      rw [retry, ask_eq_offer hSeed, List.findSome?_cons]
      cases offer units s index with
      | some token => rfl
      | none => exact ih _ hSeed.sameSorts

private theorem flush_eq_closing {recognizers : List GrammarUnit} {s : Scanner}
    {active : Nat} (h : Holding units s.start s.run (some active) recognizers) :
    (flush s active recognizers).1 = closing units s active := by
  rw [flush, ask_eq_offer h, closing, List.findSome?_cons]
  cases offer units s active with
  | some token => rfl
  | none =>
      have hRetry := retry_eq_findSome? s
        ((List.range recognizers.length).filter (· != active)) recognizers
        h.sameSorts
      rw [h.sameSorts.length_eq] at hRetry
      simp only [h.sameSorts.length_eq]
      cases hFound : ((List.range units.length).filter
          (· != active)).findSome? (offer units s) with
      | some token =>
          rw [hFound] at hRetry
          split
          next hPair => rw [hPair] at hRetry; simpa using hRetry
          next hPair => rw [hPair] at hRetry; cases hRetry
      | none =>
          rw [hFound] at hRetry
          split
          next hPair => rw [hPair] at hRetry; cases hRetry
          next hPair => rfl

/-- The tokens of a text once its last character is read. -/
private def finished (state : State GrammarUnit) : List Token :=
  match state.active with
  | none => state.tokens
  | some index =>
    state.tokens ++ [(flush state.scanner index state.recognizers).1]

private theorem tokens_eq_finished (lexer : Lexer GrammarUnit) (text : Text) :
    lexer.tokens text = finished (text.foldl step (begin lexer text)) := by
  rw [tokens, tokenize, finished]
  cases (text.foldl step (begin lexer text)).active <;> rfl

private theorem finished_foldl_step (rest : Text) :
    ∀ (before run : Text) (active : Option Nat)
      (recognizers : List GrammarUnit) (tokens : List Token),
      Holding units before.length run active recognizers →
        finished (rest.foldl step
            ⟨.between before run rest, recognizers, active, tokens⟩) =
          tokens ++ reading units before run active rest := by
  induction rest with
  | nil =>
      intro before run active recognizers tokens h
      cases active with
      | none => simp [finished, reading]
      | some index =>
          have hFlush := flush_eq_closing (s := .between before run [])
            (by simpa using h)
          simp only [List.foldl_nil, finished, reading, hFlush]
  | cons c rest ih =>
      intro before run active recognizers tokens h
      rw [List.foldl_cons, reading]
      cases hOffer : offer units (.between before (run ++ [c]) rest)
          (reader units (.between before (run ++ [c]) rest) active) with
      | some token =>
          obtain ⟨next, hNext, hStep⟩ := step_of_offer tokens h hOffer
          rw [hStep, ih _ _ _ _ _ hNext, List.append_assoc]
          rfl
      | none =>
          obtain ⟨next, hNext, hStep⟩ := step_of_no_offer tokens h hOffer
          rw [hStep, ih _ _ _ _ _ hNext]

end Close

/-- **The lexer reads the text alone.** Its tokens are those of `reading`,
whatever the units held before. -/
theorem tokens_eq_reading (units : List GrammarUnit) (text : Text) :
    (Lexer.mk units).tokens text = reading units [] [] none text := by
  have hBegin : Holding units ([] : Text).length [] none
      (units.map (GrammarUnit.reset · 0)) := by
    refine ⟨SameSorts.resetAll rfl 0, ?_⟩
    intro index hNone
    cases hNone
  rw [tokens_eq_finished]
  exact finished_foldl_step text [] [] none _ [] hBegin

end Lexer

end QueryPhrase
