import Mathlib.Data.List.Induction
import QueryPhrase.Lexer
import QueryPhrase.Recognizer.Cutter

/-!
# The places of a lexer

A recognizer sees its text through a scanner, in pieces: what earlier tokens
cover, the run, and what is ahead. Wherever the lexer is, these are the text cut
at two offsets, so they are the text when they are put together again, and what
is behind is the first two.

All that is needed of the two offsets is that the run starts no later than the
position, and that the position is in the text. Every step of the lexer keeps
that, whatever the recognizers say, and no more can be said: a lexer that cuts
at one place comes to any two such offsets.

Looking ahead is the exception. How far to look is a 64-bit word, and it is
added to the position before it is held against the length of the text. So it
takes what is there only while the sum is a word, however short the text is.

## Main definitions

* `Scanner.Within` — the two offsets are in order and in the text.
* `Lexer.Reaches` — the places a lexer comes to in a text.

## Main results

* `Lexer.Reaches.within` — every place a lexer comes to is one in its text.
* `Lexer.exists_reaches` — and a lexer comes to each of these.
* `Lexer.views_of_reaches` — what is seen from any place.
-/

namespace QueryPhrase

/-! ## Views -/

/-- The two offsets of a scanner are in order and in the text. -/
structure Scanner.Within (s : Scanner) : Prop where
  start_le : s.start ≤ s.position
  position_le : s.position ≤ s.text.length

namespace Scanner

variable {s : Scanner}

theorem behind_append_rest (s : Scanner) : s.behind ++ s.rest = s.text :=
  List.take_append_drop s.position s.text

theorem Within.behind_eq (h : s.Within) : s.behind = s.beforeRun ++ s.run := by
  have hPosition : s.position = s.start + (s.position - s.start) := by
    have hStart := h.start_le
    omega
  rw [behind, beforeRun, run, slice, hPosition, List.take_add,
    Nat.add_sub_cancel_left]

theorem Within.length_beforeRun (h : s.Within) :
    s.beforeRun.length = s.start := by
  rw [beforeRun, List.length_take]
  exact Nat.min_eq_left (Nat.le_trans h.start_le h.position_le)

theorem Within.length_behind (h : s.Within) : s.behind.length = s.position := by
  rw [behind, List.length_take]
  exact Nat.min_eq_left h.position_le

theorem Within.start_add_length (h : s.Within) :
    s.start + s.run.length = s.position := by
  rw [← h.length_behind, h.behind_eq, List.length_append, h.length_beforeRun]

theorem Within.run_eq_nil_iff (h : s.Within) :
    s.run = [] ↔ s.position = s.start := by
  have hLength := h.start_add_length
  rw [← List.length_eq_zero_iff]
  omega

/-- The run ends at the offset of its last character, if it has one. -/
theorem Within.stop?_eq (h : s.Within) :
    s.stop? =
      if s.run = [] then none else some (s.start + s.run.length - 1) := by
  have hStart := h.start_le
  rw [stop?, h.start_add_length]
  by_cases hRun : s.run = []
  · have hSame := h.run_eq_nil_iff.mp hRun
    rw [if_pos hRun, if_neg (by omega)]
  · have hOther := mt h.run_eq_nil_iff.mpr hRun
    rw [if_neg hRun, if_pos (by omega)]

theorem getElem?_run {s : Scanner} {index : Nat}
    (hIndex : index < s.position - s.start) :
    s.run[index]? = s.text[s.start + index]? := by
  rw [run, slice, List.getElem?_take, if_pos hIndex, List.getElem?_drop]

/-- And it is that character that is there. -/
theorem Within.bind_stop? (h : s.Within) :
    s.stop?.bind (s.text[·]?) = s.run.getLast? := by
  rw [h.stop?_eq]
  split
  · next hRun =>
    rw [hRun]
    rfl
  · next hRun =>
    have hPos := List.length_pos_iff.mpr hRun
    have hLength := h.start_add_length
    rw [Option.bind_some, List.getLast?_eq_getElem?,
      getElem?_run (by omega), Nat.add_sub_assoc hPos]

/-- While position and count together are a word, what is ahead is taken. -/
theorem ahead?_of_lt {count : UInt64}
    (hWord : s.position + count.toNat < UInt64.size) :
    s.ahead? count =
      some (s.rest.take (min count.toNat (s.text.length - s.position))) := by
  rw [ahead?, if_pos hWord, slice, length, rest]
  congr 2
  omega

theorem ahead?_eq_none_iff (s : Scanner) (count : UInt64) :
    s.ahead? count = none ↔ UInt64.size ≤ s.position + count.toNat := by
  rw [ahead?]
  split
  · next hWord => simp; omega
  · next hWord => simp; omega

theorem ahead?_eq_some_iff (s : Scanner) (count : UInt64) :
    s.ahead? count =
        some (s.rest.take (min count.toNat (s.text.length - s.position))) ↔
      s.position + count.toNat < UInt64.size := by
  refine ⟨fun hAhead => ?_, ahead?_of_lt⟩
  by_contra hWord
  rw [(ahead?_eq_none_iff s count).mpr (Nat.le_of_not_lt hWord)] at hAhead
  cases hAhead

end Scanner

/-! ## Places that are reached -/

namespace Lexer

section Reaches

variable {ρ : Type} [Recognizer ρ]

/-- The places a lexer comes to in a text: those between two characters, and
those at which its recognizers are asked about the next one. -/
inductive Reaches (lexer : Lexer ρ) (text : Text) : Scanner → Prop
  | between {seen rest : Text} : seen ++ rest = text →
      Reaches lexer text (seen.foldl step (begin lexer text)).scanner
  | asked {seen rest : Text} {c : Char} : seen ++ c :: rest = text →
      Reaches lexer text (seen.foldl step (begin lexer text)).scanner.advance

/-- A character moves the position, and the run goes on or starts there. -/
theorem scanner_step (state : State ρ) (c : Char) :
    (step state c).scanner = state.scanner.advance ∨
      (step state c).scanner = state.scanner.advance.mark := by
  rw [step]
  dsimp only
  split
  · exact Or.inr rfl
  · exact Or.inl rfl

/-- After some characters the position is their number. The run starts no later:
the induction is from the end, one step at a time. -/
theorem scanner_foldl_step (lexer : Lexer ρ) (text seen : Text) :
    let s := (seen.foldl step (begin lexer text)).scanner
    s.text = text ∧ s.position = seen.length ∧ s.start ≤ s.position := by
  induction seen using List.reverseRecOn with
  | nil => exact ⟨rfl, rfl, Nat.le_refl 0⟩
  | append_singleton rest c ih =>
      obtain ⟨hText, hPosition, hStart⟩ := ih
      rw [List.foldl_append, List.foldl_cons, List.foldl_nil,
        List.length_append, List.length_singleton]
      rcases scanner_step (rest.foldl step (begin lexer text)) c with
        hStep | hStep
      · rw [hStep]
        exact ⟨hText, congrArg (· + 1) hPosition, Nat.le_succ_of_le hStart⟩
      · rw [hStep]
        exact ⟨hText, congrArg (· + 1) hPosition, Nat.le_refl _⟩

/-- **Every place a lexer comes to is one in its text.** -/
theorem Reaches.within {lexer : Lexer ρ} {text : Text} {s : Scanner}
    (h : Reaches lexer text s) : s.text = text ∧ s.Within := by
  cases h with
  | @between seen rest hSplit =>
      obtain ⟨hText, hPosition, hStart⟩ := scanner_foldl_step lexer text seen
      refine ⟨hText, hStart, ?_⟩
      rw [hPosition, hText, ← hSplit, List.length_append]
      exact Nat.le_add_right _ _
  | @asked seen rest c hSplit =>
      obtain ⟨hText, hPosition, hStart⟩ := scanner_foldl_step lexer text seen
      refine ⟨hText, Nat.le_succ_of_le hStart, ?_⟩
      change _ + 1 ≤ List.length _
      rw [hPosition, Scanner.advance, hText, ← hSplit, List.length_append,
        List.length_cons]
      omega

end Reaches

/-! ## Each place is reached -/

section Cutter

/-- A lexer that cuts its text at one place. -/
def cutting (cut : Nat) : Lexer Cutter := ⟨[{ cuts := [cut] }]⟩

/-- Its recognizer still cuts there, and is the active one if there is one. -/
structure Cutting (cut : Nat) (state : State Cutter) : Prop where
  cuts : ∃ visits, state.recognizers = [⟨[cut], visits⟩]
  active : state.active = none ∨ state.active = some 0

theorem seeded_cutter (cutter : Cutter) (start : Nat) (run : Text) :
    Recognizer.seeded cutter start run = cutter := by
  have hFold : ∀ held : Cutter, run.foldl Recognizer.append held = held := by
    induction run with
    | nil => exact fun _ => rfl
    | cons c rest ih => exact ih
  exact hFold cutter

/-- The run goes on, or starts anew at the place of the cut. -/
theorem Cutting.step {cut : Nat} {state : State Cutter} (h : Cutting cut state)
    (c : Char) :
    Cutting cut (Lexer.step state c) ∧
      (Lexer.step state c).scanner =
        if state.scanner.position + 1 = cut then state.scanner.advance.mark
        else state.scanner.advance := by
  obtain ⟨⟨visits, hUnits⟩, hActive⟩ := h
  have hActivate : activate state.scanner.advance state.active
      state.recognizers c = (0, [⟨[cut], visits⟩]) := by
    rw [hUnits]
    rcases hActive with hNone | hSome
    · rw [hNone]
      simp [activate, firstLock, Recognizer.locks, seed, seeded_cutter]
    · rw [hSome]
      simp [activate, firstLock, Recognizer.append]
  have hAsk : ask state.scanner.advance 0 [(⟨[cut], visits⟩ : Cutter)] =
      (if state.scanner.position + 1 = cut then
          some (Token.leaf .word state.scanner.advance.run
            state.scanner.advance.start)
        else none, [⟨[cut], state.scanner.advance :: visits⟩]) := by
    simp [ask, Recognizer.token?, Recognizer.asked, Scanner.advance]
  rw [Lexer.step]
  simp only [hActivate, hAsk]
  by_cases hCut : state.scanner.position + 1 = cut
  · rw [if_pos hCut, if_pos hCut]
    exact ⟨⟨⟨_, rfl⟩, Or.inl rfl⟩, rfl⟩
  · rw [if_neg hCut, if_neg hCut]
    exact ⟨⟨⟨_, rfl⟩, Or.inr rfl⟩, rfl⟩

theorem scanner_cutting (cut : Nat) (text seen : Text) :
    let state := seen.foldl Lexer.step (begin (cutting cut) text)
    Cutting cut state ∧ state.scanner =
      ⟨text, seen.length, if cut ≤ seen.length then cut else 0⟩ := by
  induction seen using List.reverseRecOn with
  | nil =>
      refine ⟨⟨⟨_, rfl⟩, Or.inl rfl⟩, ?_⟩
      cases cut <;> rfl
  | append_singleton rest c ih =>
      obtain ⟨hCutting, hScanner⟩ := ih
      rw [List.foldl_append, List.foldl_cons, List.foldl_nil,
        List.length_append, List.length_singleton]
      obtain ⟨hNext, hStep⟩ := hCutting.step c
      refine ⟨hNext, ?_⟩
      rw [hStep, hScanner]
      dsimp only [Scanner.advance, Scanner.mark]
      split
      · next hCut =>
        rw [if_pos (by omega), hCut]
      · next hCut =>
        by_cases hPast : cut ≤ rest.length
        · rw [if_pos hPast, if_pos (by omega)]
        · rw [if_neg hPast, if_neg (by omega)]

/-- **A lexer comes to each place in its text.** -/
theorem exists_reaches {s : Scanner} (h : s.Within) :
    ∃ lexer : Lexer Cutter, Reaches lexer s.text s := by
  refine ⟨cutting s.start, ?_⟩
  have hScanner :=
    (scanner_cutting s.start s.text (s.text.take s.position)).2
  have hLength : (s.text.take s.position).length = s.position :=
    h.length_behind
  rw [hLength, if_pos h.start_le] at hScanner
  have hReaches : Reaches (cutting s.start) s.text _ :=
    .between (List.take_append_drop s.position s.text)
  rw [hScanner] at hReaches
  exact hReaches

end Cutter

/-! ## What is seen from a place -/

/-- **Views of a place.** Wherever a lexer is in a text, what is before the run,
the run and the rest are the text, what is behind is the first two of them, and
the run ends at the offset of its last character. A look ahead sees as many
characters of the rest as it asks for, or all of it, while the position and the
number it asks for make up a word together; it fails otherwise. -/
theorem views_of_reaches {ρ : Type} [Recognizer ρ] {lexer : Lexer ρ}
    {text : Text} {s : Scanner} (h : Reaches lexer text s) :
    s.beforeRun ++ s.run ++ s.rest = text ∧
      s.behind = s.beforeRun ++ s.run ∧
      s.beforeRun.length = s.start ∧ s.behind.length = s.position ∧
      s.stop? =
        (if s.run = [] then none else some (s.start + s.run.length - 1)) ∧
      s.stop?.bind (text[·]?) = s.run.getLast? ∧
      ∀ count : UInt64,
        (s.ahead? count =
            some (s.rest.take (min count.toNat (text.length - s.position))) ↔
          s.position + count.toNat < UInt64.size) ∧
        (s.ahead? count = none ↔
          UInt64.size ≤ s.position + count.toNat) := by
  obtain ⟨rfl, hWithin⟩ := h.within
  refine ⟨?_, hWithin.behind_eq, hWithin.length_beforeRun,
    hWithin.length_behind, hWithin.stop?_eq, hWithin.bind_stop?, ?_⟩
  · rw [← hWithin.behind_eq, s.behind_append_rest]
  · exact fun count =>
      ⟨s.ahead?_eq_some_iff count, s.ahead?_eq_none_iff count⟩

/-- Behind the cut in `é:ü`, when its second character is read. -/
theorem views_of_reaches_of_cut :
    let text : Text := "é:ü"
    let s : Scanner := ⟨text, 2, 1⟩
    Reaches (cutting 1) text s ∧
      s.beforeRun ++ s.run ++ s.rest = text ∧ s.stop? = some 1 ∧
      s.ahead? 10 = some "ü" ∧ s.ahead? 18446744073709551613 = some "ü" := by
  intro text s
  have hReaches : Reaches (cutting 1) text s :=
    @Reaches.asked _ _ (cutting 1) text "é" "ü" ':' rfl
  obtain ⟨hText, _, _, _, hStop, _, hAhead⟩ := views_of_reaches hReaches
  exact ⟨hReaches, hText, hStop, ((hAhead _).1).mpr (by decide),
    ((hAhead _).1).mpr (by decide)⟩

/-- From the place after the first of two characters, a look ahead that asks for
as many as a word can count fails, although there is one to see. -/
theorem ahead?_fails_of_largest :
    ∃ s, Reaches (cutting 1) "ab" s ∧ s.rest = "b".toList ∧
      s.ahead? 18446744073709551615 = none :=
  ⟨⟨"ab", 1, 1⟩, @Reaches.between _ _ (cutting 1) "ab" "a" "b" rfl,
    by decide, by decide⟩

end Lexer

end QueryPhrase
