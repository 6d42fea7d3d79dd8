import Mathlib.Data.List.Induction
import QueryPhrase.Text.Quoted

/-!
# Written phrases

A text written with `quote` is closed where it ends and nowhere before. The two
ways of telling agree on that: escaping leaves an even number of backslashes at
the end, so the last quote is a quote of its own, and the forward state stays
open over everything between the first quote and the last one, because each
backslash that is written takes the character after it along. Behind a quote
that is still open it is the other way round: the first quote of the written
phrase closes that one, and the last quote opens another.

Where a phrase is closed for the first time is told by a third way, which reads
on from the opening quote and takes each backslash together with the character
behind it.

## Main definitions

* `behindQuote?` — what is behind the first quote that nothing escapes.

## Main results

* `closesPhrase_quote`, `phraseText_quote` — a written phrase is closed and
  denotes the text it was written for.
* `exists_behindQuote?`, `exists_of_behindQuote?` — it finds the first place at
  which a phrase is closed.
* `QuoteState.foldl_push_quote` — after a written phrase the state is what it
  was before.
* `QuoteState.isOpen_of_append_eq_quote` — and after a shorter beginning of it
  it is the other one.
* `QuoteState.isOpen_foldl_push` — a text without quotes opens none.
-/

namespace QueryPhrase

theorem escape_append (special : Char → Bool) (a b : Text) :
    escape special (a ++ b) = escape special a ++ escape special b := by
  unfold escape
  exact List.flatMap_append

/-! ## Characters that are written as they are -/

section Plain

variable {special : Char → Bool} {plain : Text}

theorem escape_of_plain (hPlain : ∀ c ∈ plain, c ≠ '\\' ∧ special c = false) :
    escape special plain = plain := by
  induction plain with
  | nil => rfl
  | cons c rest ih =>
      rw [List.forall_mem_cons] at hPlain
      obtain ⟨⟨hBare, hSpecial⟩, hRest⟩ := hPlain
      rw [escape_cons, ih hRest]
      simp [hBare, hSpecial]

/-- What is written as it is at the front of an escaped text is at the front of
the text. -/
private theorem append_of_escape_eq
    (hPlain : ∀ c ∈ plain, c ≠ '\\' ∧ special c = false) :
    ∀ {text rest : Text}, escape special text = plain ++ rest →
      ∃ after, text = plain ++ after ∧ escape special after = rest := by
  induction plain with
  | nil => exact fun h => ⟨_, rfl, h⟩
  | cons c plain ih =>
      intro text rest h
      rw [List.forall_mem_cons] at hPlain
      obtain ⟨⟨hBare, hSpecial⟩, hOthers⟩ := hPlain
      cases text with
      | nil => cases h
      | cons d text =>
          rw [escape_cons, List.cons_append] at h
          split at h
          · exact absurd (List.cons.inj h).1.symm hBare
          · obtain ⟨hFirst, hRest⟩ := List.cons.inj h
            obtain ⟨after, hText, hAfter⟩ := ih hOthers hRest
            exact ⟨after, by rw [hFirst, hText]; rfl, hAfter⟩

/-- **What is written as it is in an escaped text is in the text**, since it
cannot begin in the middle of an escape. -/
theorem exists_of_escape_eq (hNonempty : plain ≠ [])
    (hPlain : ∀ c ∈ plain, c ≠ '\\' ∧ special c = false) {text : Text} :
    ∀ {front rest : Text}, escape special text = front ++ (plain ++ rest) →
      ∃ before after, text = before ++ (plain ++ after) ∧
        escape special before = front ∧ escape special after = rest := by
  obtain ⟨p, others, hCons⟩ := List.exists_cons_of_ne_nil hNonempty
  have hFirst := hPlain p (by simp [hCons])
  induction text with
  | nil =>
      intro front rest h
      rw [escape_nil, eq_comm, List.append_eq_nil_iff,
        List.append_eq_nil_iff] at h
      exact absurd h.2.1 hNonempty
  | cons c text ih =>
      intro front rest h
      cases front with
      | nil =>
          obtain ⟨after, hText, hAfter⟩ := append_of_escape_eq hPlain h
          exact ⟨[], after, hText, rfl, hAfter⟩
      | cons d front =>
          rw [escape_cons] at h
          split at h
          · next hEscaped =>
            -- The backslash and the character it escapes are both in front.
            cases front with
            | nil =>
                rw [hCons] at h
                simp only [List.cons_append, List.nil_append,
                  List.cons.injEq] at h
                rw [h.2.1] at hEscaped
                simp [hFirst] at hEscaped
            | cons e front =>
                simp only [List.cons_append, List.nil_append,
                  List.cons.injEq] at h
                obtain ⟨hSlash, hSame, hRest⟩ := h
                obtain ⟨before, after, hText, hFront, hAfter⟩ := ih hRest
                refine ⟨c :: before, after, by rw [hText]; rfl, ?_, hAfter⟩
                rw [escape_cons, if_pos hEscaped, hFront, ← hSlash, hSame]
                rfl
          · next hBare =>
            simp only [List.cons_append, List.nil_append, List.cons.injEq] at h
            obtain ⟨hSame, hRest⟩ := h
            obtain ⟨before, after, hText, hFront, hAfter⟩ := ih hRest
            refine ⟨c :: before, after, by rw [hText]; rfl, ?_, hAfter⟩
            rw [escape_cons, if_neg hBare, hFront, hSame]
            rfl

end Plain

/-! ## Looking back from the end -/

theorem endsUnescaped_concat {text : Text} {c : Char} (hBare : c ≠ '\\') :
    endsUnescaped (text ++ [c]) = true := by
  simp [endsUnescaped, hBare]

theorem endsUnescaped_backslashes (text : Text) :
    endsUnescaped (text ++ ['\\', '\\']) = endsUnescaped text := by
  simp [endsUnescaped, Nat.add_assoc]

/-- Backslashes come in pairs at the end of an escaped text. The induction is
from the end, where the last character is one that was not written for another
one. -/
theorem endsUnescaped_escape (special : Char → Bool) (text : Text) :
    endsUnescaped (escape special text) = true := by
  induction text using List.reverseRecOn with
  | nil => rfl
  | append_singleton rest c ih =>
      rw [escape_append, escape_cons, escape_nil, List.append_nil]
      by_cases hBackslash : c = '\\'
      · subst hBackslash
        simpa [endsUnescaped_backslashes] using ih
      · split
        · have hSplit : escape special rest ++ ['\\', c] =
              (escape special rest ++ ['\\']) ++ [c] := by simp
          rw [hSplit]
          exact endsUnescaped_concat hBackslash
        · exact endsUnescaped_concat hBackslash

theorem closesPhrase_quote (text : Text) :
    closesPhrase (quote text) = true := by
  rw [quote, closesPhrase, List.getLast?_concat, List.dropLast_concat,
    endsUnescaped_escape]
  rfl

/-- **A written phrase denotes the text it was written for.** -/
theorem phraseText_quote (text : Text) : phraseText (quote text) = text := by
  have hUnquoted : unquoted (quote text) = escape (· == '"') text := by
    have hCloses := closesPhrase_quote text
    rw [quote] at hCloses
    rw [quote, unquoted, if_pos hCloses, List.dropLast_concat]
  have hPhrase : isPhrase (quote text) = true := rfl
  rw [phraseText, if_pos hPhrase, hUnquoted, unescape_escape]

/-! ### Phrases that go on, or end early -/

theorem unescape_escape_append (special : Char → Bool) (text rest : Text) :
    unescape (escape special text ++ rest) = text ++ unescape rest := by
  induction text with
  | nil => rfl
  | cons c text ih =>
      by_cases hSpecial : (c = '\\' || special c) = true
      · simp [hSpecial, ih]
      · have hBare : c ≠ '\\' := by
          rintro rfl
          simp at hSpecial
        simp [hSpecial, unescape_cons_of_ne hBare, ih]

/-- With more behind its last quote, a written phrase denotes more. -/
theorem phraseText_quote_append (text : Text) {more : Text} (hMore : more ≠ []) :
    ∃ behind, phraseText (quote text ++ more) = text ++ '"' :: behind := by
  have hPhrase : isPhrase (quote text ++ more) = true := rfl
  have hInner : quote text ++ more =
      '"' :: (escape (· == '"') text ++ '"' :: more) := by
    simp [quote]
  have hBare : ('"' : Char) ≠ '\\' := by decide
  rw [phraseText, if_pos hPhrase, hInner, unquoted]
  split
  · rw [List.dropLast_append_of_ne_nil (List.cons_ne_nil _ _),
      List.dropLast_cons_of_ne_nil hMore, unescape_escape_append,
      unescape_cons_of_ne hBare]
    exact ⟨_, rfl⟩
  · rw [unescape_escape_append, unescape_cons_of_ne hBare]
    exact ⟨_, rfl⟩

theorem endsUnescaped_backslash (text : Text) :
    endsUnescaped (text ++ ['\\']) = !endsUnescaped text := by
  have hCount : endsUnescaped (text ++ ['\\']) =
      (((text.reverse.takeWhile (· == '\\')).length + 1) % 2 == 0) := by
    simp [endsUnescaped]
  rw [hCount, endsUnescaped, Bool.eq_iff_iff]
  simp only [beq_iff_eq, Bool.not_eq_true', beq_eq_false_iff_ne]
  omega

/-- A written phrase without its last quote is not closed. -/
theorem closesPhrase_escape (text : Text) :
    closesPhrase ('"' :: escape (· == '"') text) = false := by
  rw [closesPhrase]
  rcases List.eq_nil_or_concat text with hNil | ⟨front, c, hConcat⟩
  · rw [hNil]
    rfl
  · rw [List.concat_eq_append] at hConcat
    rw [hConcat, escape_append, escape_cons, escape_nil, List.append_nil]
    split
    · have hSplit : escape (· == '"') front ++ ['\\', c] =
          (escape (· == '"') front ++ ['\\']) ++ [c] := by simp
      rw [hSplit, List.dropLast_concat, endsUnescaped_backslash,
        endsUnescaped_escape]
      exact Bool.and_false _
    · next hPlain =>
      have hOther : c ≠ '"' := by
        rintro rfl
        simp at hPlain
      simp [hOther]

/-- It denotes what has been written so far. -/
theorem phraseText_escape (text : Text) :
    phraseText ('"' :: escape (· == '"') text) = text := by
  have hPhrase : isPhrase ('"' :: escape (· == '"') text) = true := rfl
  rw [phraseText, if_pos hPhrase, unquoted, closesPhrase_escape,
    if_neg Bool.false_ne_true, unescape_escape]

/-! ### Texts that are no phrases -/

theorem isPhrase_cons (c : Char) (rest : Text) :
    isPhrase (c :: rest) = (c == '"') := by
  by_cases hQuote : c = '"'
  · subst hQuote
    rfl
  · rw [beq_eq_false_iff_ne.mpr hQuote]
    unfold isPhrase
    split
    · next h => exact absurd (List.cons.inj h).1 hQuote
    · rfl

theorem isPhrase_append {text : Text} (hText : text ≠ []) (more : Text) :
    isPhrase (text ++ more) = isPhrase text := by
  obtain ⟨c, others, hCons⟩ := List.exists_cons_of_ne_nil hText
  rw [hCons, List.cons_append, isPhrase_cons, isPhrase_cons]

/-- A text that begins with no quote denotes itself, whatever is behind it. -/
theorem phraseText_append_of_not_mem {text : Text} (hText : text ≠ [])
    (hQuote : '"' ∉ text) (more : Text) :
    phraseText (text ++ more) = text ++ more := by
  obtain ⟨c, others, hCons⟩ := List.exists_cons_of_ne_nil hText
  have hHead : c ≠ '"' := by
    rintro rfl
    exact hQuote (by simp [hCons])
  have hPhrase : isPhrase (text ++ more) = false := by
    rw [isPhrase_append hText, hCons, isPhrase_cons]
    exact beq_eq_false_iff_ne.mpr hHead
  simp [phraseText, hPhrase]

theorem phraseText_of_not_mem {text : Text} (hQuote : '"' ∉ text) :
    phraseText text = text := by
  by_cases hText : text = []
  · rw [hText]
    rfl
  · have hAlone := phraseText_append_of_not_mem hText hQuote []
    rwa [List.append_nil] at hAlone

/-! ## Reading up to the closing quote -/

/-- What is behind the first quote that no backslash escapes; none where every
quote is escaped. -/
def behindQuote? : Text → Option Text
  | [] => none
  | ['\\'] => none
  | '\\' :: _ :: rest => behindQuote? rest
  | c :: rest => if c = '"' then some rest else behindQuote? rest

theorem behindQuote?_quote (rest : Text) :
    behindQuote? ('"' :: rest) = some rest := by
  cases rest <;> simp [behindQuote?]

theorem behindQuote?_cons {c : Char} (hBare : c ≠ '\\') (hQuote : c ≠ '"')
    (rest : Text) : behindQuote? (c :: rest) = behindQuote? rest := by
  cases rest <;> simp [behindQuote?, hBare, hQuote]

/-- A backslash either stands alone or has a character behind it. -/
private theorem ne_backslash {c : Char} {rest : Text}
    (hAlone : c = '\\' → rest = [] → False)
    (hEscape : ∀ d others, c = '\\' → rest = d :: others → False) :
    c ≠ '\\' := by
  intro hBackslash
  cases rest with
  | nil => exact hAlone hBackslash rfl
  | cons d others => exact hEscape d others hBackslash rfl

/-- In front of other text, backslashes that escape nothing in it do not count.
The induction is from the end, where the backslashes are counted. -/
theorem endsUnescaped_append {front : Text} (hFront : endsUnescaped front = true)
    (text : Text) : endsUnescaped (front ++ text) = endsUnescaped text := by
  induction text using List.reverseRecOn with
  | nil =>
      rw [List.append_nil, hFront]
      rfl
  | append_singleton rest c ih =>
      rw [← List.append_assoc]
      by_cases hBackslash : c = '\\'
      · subst hBackslash
        rw [endsUnescaped_backslash, endsUnescaped_backslash, ih]
      · rw [endsUnescaped_concat hBackslash, endsUnescaped_concat hBackslash]

theorem endsUnescaped_escaped (c : Char) (text : Text) :
    endsUnescaped ('\\' :: c :: text) = endsUnescaped text := by
  have hPair : endsUnescaped (['\\'] ++ [c]) = true := by
    by_cases hBackslash : c = '\\'
    · rw [hBackslash]
      rfl
    · exact endsUnescaped_concat hBackslash
  exact endsUnescaped_append hPair text

theorem endsUnescaped_cons {c : Char} (hBare : c ≠ '\\') (text : Text) :
    endsUnescaped (c :: text) = endsUnescaped text := by
  have hAlone : endsUnescaped ([] ++ [c]) = true := endsUnescaped_concat hBare
  exact endsUnescaped_append hAlone text

/-- A phrase that is closed ends in a quote that nothing escapes. -/
theorem closesPhrase_iff (inner : Text) : closesPhrase ('"' :: inner) = true ↔
    ∃ body, inner = body ++ ['"'] ∧ endsUnescaped body = true := by
  rw [closesPhrase, Bool.and_eq_true, beq_iff_eq]
  constructor
  · rintro ⟨hLast, hEnds⟩
    obtain ⟨body, hBody⟩ := List.getLast?_eq_some_iff.mp hLast
    rw [hBody, List.dropLast_concat] at hEnds
    exact ⟨body, hBody, hEnds⟩
  · rintro ⟨body, hBody, hEnds⟩
    rw [hBody, List.getLast?_concat, List.dropLast_concat]
    exact ⟨rfl, hEnds⟩

/-- A quote is found behind a text that leaves it unescaped, or earlier. -/
theorem exists_behindQuote? (body rest : Text)
    (hBody : endsUnescaped body = true) :
    ∃ after, behindQuote? (body ++ '"' :: rest) = some after := by
  fun_induction behindQuote? body with
  | case1 => exact ⟨rest, behindQuote?_quote rest⟩
  | case2 => exact absurd hBody (by decide)
  | case3 c body ih =>
      rw [endsUnescaped_escaped] at hBody
      exact ih hBody
  | case4 body => exact ⟨_, behindQuote?_quote _⟩
  | case5 c body hAlone hEscape hQuote ih =>
      have hBare := ne_backslash hAlone hEscape
      rw [endsUnescaped_cons hBare] at hBody
      rw [List.cons_append, behindQuote?_cons hBare hQuote]
      exact ih hBody

/-- What is found is a text up to its only unescaped quote, and the others. -/
theorem exists_of_behindQuote? {text after : Text}
    (hText : behindQuote? text = some after) :
    ∃ body, text = body ++ '"' :: after ∧ endsUnescaped body = true ∧
      behindQuote? (body ++ ['"']) = some [] := by
  fun_induction behindQuote? text with
  | case1 => cases hText
  | case2 => cases hText
  | case3 c rest ih =>
      obtain ⟨body, hRest, hEnds, hClosed⟩ := ih hText
      refine ⟨'\\' :: c :: body, by rw [hRest]; rfl, ?_, ?_⟩
      · rw [endsUnescaped_escaped, hEnds]
      · exact hClosed
  | case4 rest =>
      rw [Option.some.injEq] at hText
      exact ⟨[], by rw [hText]; rfl, rfl, rfl⟩
  | case5 c rest hAlone hEscape hQuote ih =>
      obtain ⟨body, hRest, hEnds, hClosed⟩ := ih hText
      have hBare := ne_backslash hAlone hEscape
      refine ⟨c :: body, by rw [hRest]; rfl, ?_, ?_⟩
      · rw [endsUnescaped_cons hBare, hEnds]
      · rw [List.cons_append, behindQuote?_cons hBare hQuote, hClosed]

/-- More text behind the quote is found with the rest. -/
theorem behindQuote?_append {text after : Text}
    (hText : behindQuote? text = some after) (more : Text) :
    behindQuote? (text ++ more) = some (after ++ more) := by
  fun_induction behindQuote? text with
  | case1 => cases hText
  | case2 => cases hText
  | case3 c rest ih => exact ih hText
  | case4 rest =>
      rw [Option.some.injEq] at hText
      rw [List.cons_append, behindQuote?_quote, hText]
  | case5 c rest hAlone hEscape hQuote ih =>
      rw [List.cons_append,
        behindQuote?_cons (ne_backslash hAlone hEscape) hQuote]
      exact ih hText

/-! ## Following quotes forwards -/

namespace QuoteState

theorem ofText_append (a b : Text) :
    ofText (a ++ b) = b.foldl push (ofText a) := by
  rw [ofText, List.foldl_append]
  rfl

/-- Without a quote, none is opened or closed. -/
theorem isOpen_foldl_push {text : Text} (hQuote : '"' ∉ text) :
    ∀ state : QuoteState, (text.foldl push state).isOpen = state.isOpen := by
  induction text with
  | nil => intro state; rfl
  | cons c rest ih =>
      intro state
      have hHead : c ≠ '"' := (List.ne_of_not_mem_cons hQuote).symm
      have hRest : '"' ∉ rest := List.not_mem_of_not_mem_cons hQuote
      rw [List.foldl_cons, ih hRest, push]
      split
      · rfl
      · split <;> rfl

/-- A character that is not a backslash leaves nothing escaped. -/
theorem escaped_push {c : Char} (hBare : c ≠ '\\') (state : QuoteState) :
    (state.push c).escaped = false := by
  rw [push, if_neg hBare]
  split
  · rfl
  · split <;> rfl

/-- Without a quote and with a character at the end that is no backslash, a
quote is open if one was, and nothing is escaped. -/
theorem foldl_push_concat {text : Text} {c : Char} (hQuote : '"' ∉ text ++ [c])
    (hBare : c ≠ '\\') (state : QuoteState) :
    (text ++ [c]).foldl push state = ⟨state.isOpen, false⟩ := by
  have hOpen : ((text ++ [c]).foldl push state).isOpen = state.isOpen :=
    isOpen_foldl_push hQuote state
  have hEscaped : ((text ++ [c]).foldl push state).escaped = false := by
    rw [List.foldl_append]
    exact escaped_push hBare _
  cases hState : (text ++ [c]).foldl push state with
  | mk isOpen escaped =>
      rw [hState] at hOpen hEscaped
      rw [show isOpen = state.isOpen from hOpen,
        show escaped = false from hEscaped]

variable (inside : Bool)

private theorem push_plain {c : Char} (hPlain : ¬ (c = '\\' || c == '"') = true) :
    push ⟨inside, false⟩ c = ⟨inside, false⟩ := by
  have hBare : c ≠ '\\' ∧ c ≠ '"' := by simpa using hPlain
  simp [push, hBare]

/-- No beginning of an escaped text opens or closes a quote. -/
theorem isOpen_of_append_eq_escape {text : Text} :
    ∀ {seen ahead : Text}, seen ++ ahead = escape (· == '"') text →
      (seen.foldl push ⟨inside, false⟩).isOpen = inside := by
  induction text with
  | nil =>
      intro seen ahead h
      rw [escape_nil, List.append_eq_nil_iff] at h
      rw [h.1]
      rfl
  | cons c rest ih =>
      intro seen ahead h
      rw [escape_cons] at h
      split at h
      · -- A backslash and the character it escapes.
        match seen with
        | [] => rfl
        | [d] =>
            have hHead : d = '\\' := (List.cons.inj h).1
            subst hHead
            rfl
        | d :: e :: others =>
            simp only [List.cons_append, List.nil_append, List.cons.injEq] at h
            obtain ⟨hHead, _, hRest⟩ := h
            subst hHead
            have hLater := ih hRest
            exact hLater
      · next hPlain =>
        match seen with
        | [] => rfl
        | d :: others =>
            simp only [List.cons_append, List.nil_append, List.cons.injEq] at h
            obtain ⟨hHead, hRest⟩ := h
            rw [List.foldl_cons, hHead, push_plain inside hPlain]
            exact ih hRest

theorem foldl_push_escape (text : Text) :
    (escape (· == '"') text).foldl push ⟨inside, false⟩ =
      ⟨inside, false⟩ := by
  induction text with
  | nil => rfl
  | cons c rest ih =>
      rw [escape_cons, List.foldl_append]
      split
      · exact ih
      · next hPlain =>
        rw [List.foldl_cons, push_plain inside hPlain]
        exact ih

private theorem push_quote :
    push ⟨inside, false⟩ '"' = ⟨!inside, false⟩ := rfl

/-- After a written phrase the state is what it was before. -/
theorem foldl_push_quote (text : Text) :
    (quote text).foldl push ⟨inside, false⟩ = ⟨inside, false⟩ := by
  rw [quote, List.foldl_cons, push_quote, List.foldl_append, foldl_push_escape,
    List.foldl_cons, push_quote, Bool.not_not]
  rfl

/-- After a beginning of a written phrase the state is the other one. -/
theorem isOpen_of_append_eq_quote {text seen ahead : Text}
    (h : seen ++ ahead = quote text) (hSeen : seen ≠ []) (hAhead : ahead ≠ []) :
    (seen.foldl push ⟨inside, false⟩).isOpen = !inside := by
  obtain ⟨c, others, hCons⟩ := List.exists_cons_of_ne_nil hSeen
  obtain ⟨between, last, hConcat⟩ :=
    (List.eq_nil_or_concat ahead).resolve_left hAhead
  rw [List.concat_eq_append] at hConcat
  subst hCons hConcat
  rw [quote, List.cons_append, List.cons.injEq, ← List.append_assoc,
    List.append_singleton_inj] at h
  obtain ⟨hFirst, hInside, _⟩ := h
  rw [hFirst, List.foldl_cons, push_quote]
  exact isOpen_of_append_eq_escape _ hInside

end QuoteState

end QueryPhrase
