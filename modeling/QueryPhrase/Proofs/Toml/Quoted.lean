import QueryPhrase.Toml.Quoted
import QueryPhrase.Proofs.Text.Pieces

/-!
# Quoted texts are read back

What stands between quotes is a sequence of characters and of escaped ones, and no
quote in it ends the text: on one line there is none that is not escaped, and over
several lines there are no three in a row. Each of these bodies is read up to the
quotes behind it, whatever comes after them, and the escapes of a written text stand
for its characters. So a text that was written is read back in whichever of the four
ways it is quoted.

## Main definitions

* `LineBody`, `LinesBody` — what may stand between quotes on one line, and over
  several.

## Main results

* `LineBody.read`, `LinesBody.read` — a body is read up to the quotes behind it.
* `unescapeFrom?_escapedChar` — a written character stands for itself.
* `readQuoted?_quoted` — a text that was written is read back.
-/

namespace QueryPhrase.Toml

/-! ## Written characters -/

/-- How a character is written between double quotes. -/
inductive Escaped (c : Char) : Text → Prop
  /-- As it is. -/
  | itself (plain : isPlain c = true) (not_quote : c ≠ '"')
      (not_backslash : c ≠ '\\') : Escaped c [c]
  /-- As a backslash and one more character. -/
  | short (d : Char) (plain : isPlain d = true) (stands : escaped? d = some c) :
      Escaped c ['\\', d]
  /-- By its code point. -/
  | digits (written : Text) (four : written.length = 4)
      (plain : ∀ d ∈ written, isPlain d = true ∧ d ≠ '"' ∧ d ≠ '\\')
      (value : written.foldlM (fun n d => (hexValue? d).map (16 * n + ·)) 0 =
        some c.toNat) :
      Escaped c ('\\' :: 'u' :: written)

/-- Whether the digits of a code point are four, are plain and stand for it. -/
def areDigitsOf (written : Text) (n : Nat) : Bool :=
  written.length == 4 &&
    written.all (fun d => isPlain d && d != '"' && d != '\\') &&
    written.foldlM (fun n d => (hexValue? d).map (16 * n + ·)) 0 == some n

theorem fourHexDigits_spec {n : Nat} (h : n < 128) :
    areDigitsOf (fourHexDigits n) n = true := by
  have hAll : (List.range 128).all (fun n => areDigitsOf (fourHexDigits n) n) =
      true := by decide +kernel
  exact List.all_eq_true.mp hAll n (List.mem_range.mpr h)

theorem escapedChar_spec (c : Char) : Escaped c (escapedChar c) := by
  unfold escapedChar
  split
  · exact .short 'b' (by decide) rfl
  · exact .short 't' (by decide) rfl
  · exact .short 'n' (by decide) rfl
  · exact .short 'f' (by decide) rfl
  · exact .short 'r' (by decide) rfl
  · exact .short '"' (by decide) rfl
  · exact .short '\\' (by decide) rfl
  · split
    · rename_i hPlain
      exact .itself hPlain (by assumption) (by assumption)
    · rename_i hControl
      have hSmall : c.toNat < 128 := by
        simp [isPlain] at hControl
        omega
      have hDigits := fourHexDigits_spec hSmall
      simp only [areDigitsOf, Bool.and_eq_true, beq_iff_eq, List.all_eq_true,
        bne_iff_ne] at hDigits
      obtain ⟨⟨hFour, hPlain⟩, hValue⟩ := hDigits
      exact .digits _ hFour
        (fun d hd => ⟨(hPlain d hd).1.1, (hPlain d hd).1.2, (hPlain d hd).2⟩) hValue

/-- The digits of a code point are read as its character. -/
theorem unescapeFrom?_digits (lines : Bool) (rest : Text) {c d : Char}
    {written : Text} {value : Nat}
    (hValue : (d :: written).foldlM
      (fun n e => (hexValue? e).map (16 * n + ·)) value = some c.toNat) :
    unescapeFrom? lines (.digits (written.length + 1) value)
        (d :: (written ++ rest)) =
      (unescapeFrom? lines .plain rest).map (c :: ·) := by
  induction written generalizing value d with
  | nil =>
      rw [List.foldlM_cons] at hValue
      obtain ⟨next, hNext, hValue⟩ := Option.bind_eq_some_iff.mp hValue
      obtain ⟨digit, hDigit, hNext⟩ := Option.map_eq_some_iff.mp hNext
      have hCode : 16 * value + digit = c.toNat :=
        hNext.trans (Option.some_inj.mp hValue)
      have hChar : charOf? c.toNat = some c := by
        have hValid : c.toNat.isValidChar := c.valid
        rw [charOf?, if_pos hValid, Char.ofNat_toNat]
      rw [unescapeFrom?, hDigit]
      simp [hCode, hChar]
  | cons e others ih =>
      rw [List.foldlM_cons] at hValue
      obtain ⟨next, hNext, hValue⟩ := Option.bind_eq_some_iff.mp hValue
      obtain ⟨digit, hDigit, rfl⟩ := Option.map_eq_some_iff.mp hNext
      have hRest := ih hValue
      rw [unescapeFrom?, hDigit, ← hRest]
      simp

/-- **A written character** stands for itself. -/
theorem unescapeFrom?_escapedChar (lines : Bool) (c : Char) (rest : Text) :
    unescapeFrom? lines .plain (escapedChar c ++ rest) =
      (unescapeFrom? lines .plain rest).map (c :: ·) := by
  have hWritten := escapedChar_spec c
  generalize escapedChar c = written at hWritten
  cases hWritten with
  | itself plain not_quote not_backslash =>
      rw [List.singleton_append, unescapeFrom?, if_neg not_backslash]
  | short d plain stands =>
      simp [unescapeFrom?, stands]
  | digits written four plain value =>
      cases written with
      | nil => cases four
      | cons d others =>
          have hDigits := unescapeFrom?_digits lines rest value
          rw [List.length_cons] at four
          rw [four] at hDigits
          rw [← hDigits]
          simp [unescapeFrom?, escaped?, escapeDigits?]

/-! ## Bodies on one line -/

/-- What may stand between quotes on one line. -/
inductive LineBody (quote : Char) (escapes : Bool) : Text → Prop
  | nil : LineBody quote escapes []
  | char {c : Char} {rest : Text} (plain : isPlain c = true)
      (not_quote : c ≠ quote) (not_escape : escapes = true → c ≠ '\\')
      (body : LineBody quote escapes rest) : LineBody quote escapes (c :: rest)
  | pair {d : Char} {rest : Text} (does_escape : escapes = true)
      (plain : isPlain d = true) (body : LineBody quote escapes rest) :
      LineBody quote escapes ('\\' :: d :: rest)

/-- **A body on one line** is read up to the quote behind it. -/
theorem LineBody.read {quote : Char} {escapes : Bool} {body : Text}
    (h : LineBody quote escapes body) (hQuote : quote ≠ '\\') (rest : Text) :
    bodyOnLine? quote escapes (body ++ quote :: rest) = some (body, rest) := by
  induction h with
  | nil =>
      rw [List.nil_append, bodyOnLine?.eq_def]
      simp
  | @char c others plain not_quote not_escape _ ih =>
      have hBare : (escapes && c == '\\') = false := by
        cases escapes with
        | false => rfl
        | true => simpa using not_escape rfl
      rw [List.cons_append, bodyOnLine?.eq_def]
      simp [not_quote, plain, hBare, ih]
  | @pair d others does_escape plain _ ih =>
      rw [List.cons_append, List.cons_append, bodyOnLine?.eq_def]
      have hBackslash : isPlain '\\' = true := by decide
      simp [Ne.symm hQuote, does_escape, plain, hBackslash]
      rw [does_escape] at ih
      simp [ih]

/-- Characters as they are may stand between quotes if they are no quotes. -/
theorem LineBody.append {quote : Char} {escapes : Bool} {text rest : Text}
    (hText : ∀ c ∈ text, isPlain c = true ∧ c ≠ quote ∧ c ≠ '\\')
    (hRest : LineBody quote escapes rest) :
    LineBody quote escapes (text ++ rest) := by
  induction text with
  | nil => exact hRest
  | cons c others ih =>
      rw [List.forall_mem_cons] at hText
      obtain ⟨⟨hPlain, hQuote, hBare⟩, hOthers⟩ := hText
      exact .char hPlain hQuote (fun _ => hBare) (ih hOthers)

/-- Written characters may stand between double quotes. -/
theorem LineBody.escaped {c : Char} {written rest : Text} (h : Escaped c written)
    (hRest : LineBody '"' true rest) : LineBody '"' true (written ++ rest) := by
  cases h with
  | itself plain not_quote not_backslash =>
      exact .char plain not_quote (fun _ => not_backslash) hRest
  | short d plain => exact .pair rfl plain hRest
  | digits written four plain =>
      exact .pair rfl (by decide) (hRest.append plain)

/-! ## Bodies over several lines -/

/-- What may stand between three quotes, `run` quotes having come before in a row.
-/
inductive LinesBody (quote : Char) (escapes : Bool) : Nat → Text → Prop
  | nil (run : Nat) (few : run ≤ 2) : LinesBody quote escapes run []
  | quote {run : Nat} {rest : Text} (few : run < 2)
      (body : LinesBody quote escapes (run + 1) rest) :
      LinesBody quote escapes run (quote :: rest)
  | char {run : Nat} {c : Char} {rest : Text} (few : run ≤ 2)
      (not_quote : c ≠ quote) (not_escape : escapes = true → c ≠ '\\')
      (body : LinesBody quote escapes 0 rest) :
      LinesBody quote escapes run (c :: rest)
  | pair {run : Nat} {d : Char} {rest : Text} (few : run ≤ 2)
      (does_escape : escapes = true) (body : LinesBody quote escapes 0 rest) :
      LinesBody quote escapes run ('\\' :: d :: rest)

/-- Quotes in a row, and what they close. -/
theorem closing?_replicate {quote : Char} {rest : Text}
    (hRest : rest.head? ≠ some quote) {count : Nat} (hCount : count ≤ 5) :
    closing? quote (List.replicate count quote ++ rest) =
      if 3 ≤ count then some (List.replicate (count - 3) quote, rest)
      else none := by
  have hRun : (List.replicate count quote ++ rest).takeWhile (· == quote) =
      List.replicate count quote := by
    refine Text.takeWhile_append (by simp) fun c hHead => ?_
    rw [hHead] at hRest
    simpa using hRest
  have hDrop : (List.replicate count quote ++ rest).drop count = rest := by
    rw [List.drop_left' List.length_replicate]
  rw [closing?, hRun, List.length_replicate, Nat.min_eq_right hCount, hDrop]

/-- A body is nothing but quotes, or a few quotes and something else. -/
theorem LinesBody.leading {quote : Char} {escapes : Bool} {run : Nat} {body : Text}
    (h : LinesBody quote escapes run body) (hQuote : quote ≠ '\\') :
    ∃ count rest, body = List.replicate count quote ++ rest ∧ count + run ≤ 2 ∧
      rest.head? ≠ some quote := by
  induction h with
  | nil run few => exact ⟨0, [], rfl, by omega, by simp⟩
  | quote few _ ih =>
      obtain ⟨count, rest, hBody, hFew, hRest⟩ := ih
      exact ⟨count + 1, rest, by rw [hBody]; rfl, by omega, hRest⟩
  | char few not_quote =>
      exact ⟨0, _, rfl, by omega, by simpa using not_quote⟩
  | pair few =>
      exact ⟨0, _, rfl, by omega, by simpa using Ne.symm hQuote⟩

/-- Three quotes or more behind a body end it there, and with the body. -/
theorem LinesBody.closing?_eq {quote : Char} {escapes : Bool} {run : Nat}
    {body : Text} (h : LinesBody quote escapes run body) (hQuote : quote ≠ '\\')
    {rest : Text} (hRest : rest.head? ≠ some quote) :
    closing? quote (body ++ (List.replicate 3 quote ++ rest)) =
        some (body, rest) ∨
      closing? quote (body ++ (List.replicate 3 quote ++ rest)) = none ∧
        body ≠ [] := by
  obtain ⟨count, more, hBody, hFew, hMore⟩ := h.leading hQuote
  cases more with
  | nil =>
      left
      rw [List.append_nil] at hBody
      rw [hBody, ← List.append_assoc, List.replicate_append_replicate,
        closing?_replicate hRest (by omega), if_pos (by omega),
        Nat.add_sub_cancel]
  | cons c others =>
      right
      have hHead : (c :: (others ++ (List.replicate 3 quote ++ rest))).head? ≠
          some quote := by simpa using hMore
      refine ⟨?_, by rw [hBody]; simp⟩
      rw [hBody, List.append_assoc, List.cons_append,
        closing?_replicate hHead (by omega), if_neg (by omega)]

theorem bodyOverLines?_of_closing {quote c : Char} {escapes : Bool}
    {rest : Text} {found : Text × Text}
    (h : closing? quote (c :: rest) = some found) :
    bodyOverLines? quote escapes (c :: rest) = some found := by
  rw [bodyOverLines?.eq_def]
  simp [h]

theorem bodyOverLines?_char {quote c : Char} {escapes : Bool} {rest : Text}
    (h : closing? quote (c :: rest) = none)
    (hBare : (escapes && c == '\\') = false) :
    bodyOverLines? quote escapes (c :: rest) =
      (bodyOverLines? quote escapes rest).map fun found =>
        (c :: found.1, found.2) := by
  rw [bodyOverLines?.eq_def]
  simp [h, hBare]

theorem bodyOverLines?_pair {quote d : Char} {escapes : Bool} {rest : Text}
    (hQuote : quote ≠ '\\') (hEscapes : escapes = true) :
    bodyOverLines? quote escapes ('\\' :: d :: rest) =
      (bodyOverLines? quote escapes rest).map fun found =>
        ('\\' :: d :: found.1, found.2) := by
  have hMore : closing? quote ('\\' :: d :: rest) = none := by
    have hHead : ('\\' :: d :: rest).head? ≠ some quote := by
      simpa using Ne.symm hQuote
    simpa using closing?_replicate hHead (Nat.zero_le 5)
  rw [bodyOverLines?.eq_def]
  simp [hMore, hEscapes]

/-- **A body over several lines** is read up to the three quotes behind it. -/
theorem LinesBody.read {quote : Char} {escapes : Bool} {run : Nat} {body : Text}
    (h : LinesBody quote escapes run body) (hQuote : quote ≠ '\\') {rest : Text}
    (hRest : rest.head? ≠ some quote) :
    bodyOverLines? quote escapes (body ++ (List.replicate 3 quote ++ rest)) =
      some (body, rest) := by
  -- where the body does not end it goes on, and the escapes in it are passed
  have hGoesOn : ∀ {run : Nat} {c : Char} {others : Text},
      LinesBody quote escapes run (c :: others) →
      (escapes && c == '\\') = false →
      bodyOverLines? quote escapes (others ++ (List.replicate 3 quote ++ rest)) =
        some (others, rest) →
      bodyOverLines? quote escapes
          (c :: others ++ (List.replicate 3 quote ++ rest)) =
        some (c :: others, rest) := by
    intro run c others hBody hBare hOthers
    rcases hBody.closing?_eq hQuote hRest with hEnd | ⟨hMore, -⟩
    · exact bodyOverLines?_of_closing hEnd
    · rw [List.cons_append] at hMore ⊢
      rw [bodyOverLines?_char hMore hBare, hOthers]
      rfl
  induction h with
  | nil run few =>
      have hNil : LinesBody quote escapes run [] := .nil run few
      rcases hNil.closing?_eq hQuote hRest with hEnd | ⟨-, hMore⟩
      · exact bodyOverLines?_of_closing hEnd
      · exact absurd rfl hMore
  | quote few body ih =>
      exact hGoesOn (.quote few body) (by simp [hQuote]) ih
  | char few not_quote not_escape body ih =>
      refine hGoesOn (.char few not_quote not_escape body) ?_ ih
      cases escapes with
      | false => rfl
      | true => simpa using not_escape rfl
  | pair few does_escape body ih =>
      rw [List.cons_append, List.cons_append,
        bodyOverLines?_pair hQuote does_escape, ih]
      rfl

/-- Characters as they are may stand between three quotes if they are no quotes. -/
theorem LinesBody.append {quote : Char} {escapes : Bool} {text rest : Text}
    (hText : ∀ c ∈ text, c ≠ quote ∧ c ≠ '\\')
    (hRest : LinesBody quote escapes 0 rest) :
    LinesBody quote escapes 0 (text ++ rest) := by
  induction text with
  | nil => exact hRest
  | cons c others ih =>
      rw [List.forall_mem_cons] at hText
      obtain ⟨⟨hQuote, hBare⟩, hOthers⟩ := hText
      exact .char (by omega) hQuote (fun _ => hBare) (ih hOthers)

/-- Written characters may stand between three double quotes. -/
theorem LinesBody.escaped {c : Char} {written rest : Text} {run : Nat}
    (h : Escaped c written) (hFew : run ≤ 2)
    (hRest : LinesBody '"' true 0 rest) :
    LinesBody '"' true run (written ++ rest) := by
  cases h with
  | itself plain not_quote not_backslash =>
      exact .char hFew not_quote (fun _ => not_backslash) hRest
  | short d plain => exact .pair hFew rfl hRest
  | digits written four plain =>
      exact .pair hFew rfl (hRest.append fun d hd => (plain d hd).2)

/-- A text escaped over several lines may stand between three double quotes. -/
theorem linesBody_escapeOverLines {run : Nat} (hFew : run ≤ 2) (text : Text) :
    LinesBody '"' true run (escapeOverLines run text) := by
  induction text generalizing run with
  | nil => exact .nil run hFew
  | cons c rest ih =>
      rw [escapeOverLines]
      split
      · split
        · exact .pair hFew rfl (ih (by omega))
        · exact .quote (by omega) (ih (by omega))
      · rename_i hQuote
        split
        · exact .char hFew (by decide) (fun _ => by decide) (ih (by omega))
        · exact .escaped (escapedChar_spec c) hFew (ih (by omega))

/-- A quote more in the row, or the end of it, and the longest row so far. -/
def runStep (quote : Char) (state : Nat × Nat) (c : Char) : Nat × Nat :=
  if c = quote then (state.1 + 1, max state.2 (state.1 + 1)) else (0, state.2)

theorem longestRun_eq (quote : Char) (text : Text) :
    longestRun quote text = (text.foldl (runStep quote) (0, 0)).2 := rfl

theorem le_foldl_runStep (quote : Char) (text : Text) (state : Nat × Nat) :
    state.2 ≤ (text.foldl (runStep quote) state).2 := by
  induction text generalizing state with
  | nil => exact Nat.le_refl _
  | cons c rest ih =>
      refine Nat.le_trans ?_ (ih _)
      rw [runStep]
      split
      · exact Nat.le_max_left _ _
      · exact Nat.le_refl _

theorem linesBody_of_foldl_runStep {quote : Char} {text : Text}
    (state : Nat × Nat) (hRun : state.1 ≤ 2) (h : (text.foldl (runStep quote) state).2 ≤ 2) :
    LinesBody quote false state.1 text := by
  induction text generalizing state with
  | nil => exact .nil state.1 hRun
  | cons c rest ih =>
      rw [List.foldl_cons] at h
      by_cases hQuote : c = quote
      · have hNext : (runStep quote state c).1 = state.1 + 1 := by
          rw [runStep, if_pos hQuote]
        have hLongest := Nat.le_trans (le_foldl_runStep quote rest _) h
        rw [runStep, if_pos hQuote] at hLongest
        have hFew : state.1 + 1 ≤ 2 :=
          Nat.le_trans (Nat.le_max_right _ _) hLongest
        have hRest := ih _ (by rw [hNext]; exact hFew) h
        rw [hNext] at hRest
        rw [hQuote]
        exact .quote hFew hRest
      · have hNext : (runStep quote state c).1 = 0 := by
          rw [runStep, if_neg hQuote]
        have hRest := ih _ (by rw [hNext]; omega) h
        rw [hNext] at hRest
        exact .char hRun hQuote (fun hEscapes => by cases hEscapes) hRest

/-- A text without three quotes in a row may stand between three. -/
theorem linesBody_of_longestRun {quote : Char} {text : Text}
    (h : longestRun quote text ≤ 2) : LinesBody quote false 0 text := by
  rw [longestRun_eq] at h
  exact linesBody_of_foldl_runStep (0, 0) (by omega) h

/-! ## Reading back -/

/-- A text that does not go on with a quote. -/
def NoQuote (rest : Text) : Prop :=
  rest.head? ≠ some '"' ∧ rest.head? ≠ some '\''

/-- The escapes of a text on one line stand for the text. -/
theorem unescapeFrom?_flatMap (lines : Bool) (text : Text) :
    unescapeFrom? lines .plain (text.flatMap escapedChar) = some text := by
  induction text with
  | nil => rfl
  | cons c rest ih =>
      rw [List.flatMap_cons, unescapeFrom?_escapedChar, ih]
      rfl

/-- The escapes of a text over several lines stand for the text. -/
theorem unescapeFrom?_escapeOverLines (run : Nat) (text : Text) :
    unescapeFrom? true .plain (escapeOverLines run text) = some text := by
  induction text generalizing run with
  | nil => rfl
  | cons c rest ih =>
      rw [escapeOverLines]
      split
      · rename_i hQuote
        split
        · simp [unescapeFrom?, escaped?, ih, hQuote]
        · simp [unescapeFrom?, ih, hQuote]
      · split
        · rename_i hBreak
          simp [unescapeFrom?, ih, hBreak]
        · rw [unescapeFrom?_escapedChar, ih]
          rfl

theorem plainLines_of_forall {text : Text}
    (h : ∀ c ∈ text, c = '\n' ∨ isPlain c = true) : plainLines text = true := by
  induction text with
  | nil => rfl
  | cons c rest ih =>
      rw [List.forall_mem_cons] at h
      rw [plainLines, ih h.2]
      · simpa using h.1
      · rintro rfl
        exact absurd h.1 (by decide)

theorem Escaped.plain {c : Char} {written : Text} (h : Escaped c written) :
    ∀ d ∈ written, isPlain d = true := by
  cases h with
  | itself plain => simpa using plain
  | short d plain =>
      simp only [List.forall_mem_cons]
      exact ⟨by decide, plain, List.forall_mem_nil _⟩
  | digits written four plain =>
      simp only [List.forall_mem_cons]
      exact ⟨by decide, by decide, fun d hd => (plain d hd).1⟩

/-- A written character does not begin with a quote or a line break. -/
theorem Escaped.head {c : Char} {written : Text} (h : Escaped c written) :
    ∃ d rest, written = d :: rest ∧ isPlain d = true ∧ d ≠ '"' := by
  cases h with
  | itself plain not_quote => exact ⟨c, [], rfl, plain, not_quote⟩
  | short d => exact ⟨'\\', [d], rfl, by decide, by decide⟩
  | digits written => exact ⟨'\\', _, rfl, by decide, by decide⟩

/-- What is written for a text over several lines: of line breaks only those of the
text, and else nothing that is not plain. -/
def PlainBody (text body : Text) : Prop :=
  ∀ c ∈ body, isPlain c = true ∨ c = '\n' ∧ '\n' ∈ text

/-- Line breaks stay over several lines, and nothing else that is not plain. -/
theorem plainBody_escapeOverLines (run : Nat) (text : Text) :
    PlainBody text (escapeOverLines run text) := by
  induction text generalizing run with
  | nil => exact List.forall_mem_nil _
  | cons c rest ih =>
      have hRest : ∀ run, PlainBody (c :: rest) (escapeOverLines run rest) := by
        intro run d hd
        exact (ih run d hd).imp_right (And.imp_right (List.mem_cons_of_mem c))
      have hQuote : isPlain '"' = true := by decide
      have hBackslash : isPlain '\\' = true := by decide
      rw [escapeOverLines]
      split
      · split
        · exact List.forall_mem_cons.mpr ⟨.inl hBackslash,
            List.forall_mem_cons.mpr ⟨.inl hQuote, hRest 0⟩⟩
        · exact List.forall_mem_cons.mpr ⟨.inl hQuote, hRest (run + 1)⟩
      · split
        · rename_i hBreak
          exact List.forall_mem_cons.mpr
            ⟨.inr ⟨rfl, hBreak ▸ List.mem_cons_self ..⟩, hRest 0⟩
        · exact List.forall_mem_append.mpr
            ⟨fun d hd => .inl ((escapedChar_spec c).plain d hd), hRest 0⟩

/-- The line break in front of a text over several lines is left out, and nothing
else is. -/
theorem dropLineBreak_openingBreak (quote : Char) {text body : Text}
    (hQuote : isPlain quote = true) (hBody : PlainBody text body) (rest : Text) :
    dropLineBreak (openingBreak text ++ (body ++ (quote :: rest))) =
      body ++ (quote :: rest) := by
  rw [openingBreak]
  split
  · rfl
  · rename_i hNone
    have hHead : ∀ c, (body ++ (quote :: rest)).head? = some c →
        isPlain c = true := by
      intro c hc
      cases body with
      | nil =>
          obtain rfl : quote = c := by simpa using hc
          exact hQuote
      | cons d others =>
          obtain rfl : d = c := by simpa using hc
          rcases hBody d (List.mem_cons_self ..) with hPlain | ⟨-, hBreak⟩
          · exact hPlain
          · simp [hBreak] at hNone
    rw [List.nil_append]
    generalize body ++ (quote :: rest) = after at hHead
    cases after with
    | nil => rfl
    | cons c others =>
        have hPlain := hHead c rfl
        have hBreak : c ≠ '\n' ∧ c ≠ '\r' := by
          constructor <;>
          · rintro rfl
            exact absurd hPlain (by decide)
        rw [dropLineBreak.eq_def]
        simp [hBreak]

theorem PlainBody.plainLines {text body : Text} (h : PlainBody text body) :
    Toml.plainLines body = true :=
  plainLines_of_forall fun c hc => (h c hc).symm.imp_left And.left

theorem readQuoted?_double {after : Text}
    (h : ∀ more, after ≠ '"' :: '"' :: more) :
    readQuoted? ('"' :: after) = readOnLine? '"' true after := by
  rw [readQuoted?]
  rintro more rfl
  exact h more rfl

theorem readQuoted?_single {after : Text}
    (h : ∀ more, after ≠ '\'' :: '\'' :: more) :
    readQuoted? ('\'' :: after) = readOnLine? '\'' false after := by
  rw [readQuoted?]
  rintro more rfl
  exact h more rfl

/-- A text on one line does not begin with three quotes. -/
theorem append_quote_ne {quote : Char} {body rest : Text}
    (hBody : body.head? ≠ some quote) (hRest : rest.head? ≠ some quote)
    (more : Text) : body ++ quote :: rest ≠ quote :: quote :: more := by
  intro hEq
  cases body with
  | nil =>
      rw [List.nil_append, List.cons.injEq] at hEq
      rw [hEq.2] at hRest
      exact hRest rfl
  | cons c others =>
      rw [List.cons_append, List.cons.injEq] at hEq
      rw [List.head?_cons, hEq.1] at hBody
      exact hBody rfl

theorem head?_flatMap_escapedChar (text : Text) :
    (text.flatMap escapedChar).head? ≠ some '"' := by
  cases text with
  | nil => simp
  | cons c rest =>
      obtain ⟨d, written, hWritten, -, hQuote⟩ := (escapedChar_spec c).head
      rw [List.flatMap_cons, hWritten, List.cons_append, List.head?_cons]
      simpa using hQuote

theorem doubleQuoted_append (text rest : Text) :
    doubleQuoted text ++ rest =
      '"' :: (text.flatMap escapedChar ++ '"' :: rest) := by
  simp [doubleQuoted]

theorem singleQuoted_append (text rest : Text) :
    singleQuoted text ++ rest = '\'' :: (text ++ '\'' :: rest) := by
  simp [singleQuoted]

theorem readQuoted?_doubleQuoted (text : Text) {rest : Text}
    (h : rest.head? ≠ some '"') :
    readQuoted? (doubleQuoted text ++ rest) = some (text, rest) := by
  have hBody : LineBody '"' true (text.flatMap escapedChar) := by
    induction text with
    | nil => exact .nil
    | cons c others ih => exact .escaped (escapedChar_spec c) ih
  have hStart := append_quote_ne (head?_flatMap_escapedChar text) h
  rw [doubleQuoted_append, readQuoted?_double hStart, readOnLine?,
    hBody.read (by decide)]
  simp [unescapeFrom?_flatMap]

theorem head?_ne_of_forall {quote : Char} {text : Text}
    (h : ∀ c ∈ text, isPlain c = true ∧ c ≠ quote) :
    text.head? ≠ some quote :=
  fun hHead => (h quote (List.mem_of_head? hHead)).2 rfl

theorem readQuoted?_singleQuoted {text rest : Text}
    (hText : ∀ c ∈ text, isPlain c = true ∧ c ≠ '\'')
    (h : rest.head? ≠ some '\'') :
    readQuoted? (singleQuoted text ++ rest) = some (text, rest) := by
  have hStart := append_quote_ne (head?_ne_of_forall hText) h
  have hBody : LineBody '\'' false text := by
    clear hStart
    induction text with
    | nil => exact .nil
    | cons c others ih =>
        rw [List.forall_mem_cons] at hText
        exact .char hText.1.1 hText.1.2 (fun hEscapes => by cases hEscapes)
          (ih hText.2)
  rw [singleQuoted_append, readQuoted?_single hStart, readOnLine?,
    hBody.read (by decide)]
  rfl

/-- A body over several lines is read between its quotes, with the line break in
front of it or without. -/
theorem LinesBody.readOverLines? {quote : Char} {escapes : Bool}
    {text body rest : Text} (hBody : LinesBody quote escapes 0 body)
    (hPlain : PlainBody text body) (hQuote : isPlain quote = true ∧ quote ≠ '\\')
    (h : rest.head? ≠ some quote) :
    Toml.readOverLines? quote escapes (openingBreak text ++
        (body ++ quote :: quote :: quote :: rest)) =
      (if escapes then unescapeFrom? true .plain body else some body).map
        (·, rest) := by
  have hRead := hBody.read hQuote.2 h
  have hDrop := dropLineBreak_openingBreak quote hQuote.1 hPlain
    (quote :: quote :: rest)
  simp only [List.replicate_succ, List.replicate_zero, List.cons_append,
    List.nil_append] at hRead
  rw [Toml.readOverLines?, hDrop, hRead, Option.bind_eq_bind, Option.bind_some]
  dsimp only
  rw [if_pos hPlain.plainLines]
  cases escapes with
  | false => rfl
  | true => cases unescapeFrom? true .plain body <;> rfl

theorem tripleDoubleQuoted_append (text rest : Text) :
    tripleDoubleQuoted text ++ rest =
      '"' :: '"' :: '"' :: (openingBreak text ++
        (escapeOverLines 0 text ++ '"' :: '"' :: '"' :: rest)) := by
  rw [tripleDoubleQuoted, List.append_assoc, List.append_assoc,
    List.append_assoc]
  rfl

theorem tripleSingleQuoted_append (text rest : Text) :
    tripleSingleQuoted text ++ rest =
      '\'' :: '\'' :: '\'' :: (openingBreak text ++
        (text ++ '\'' :: '\'' :: '\'' :: rest)) := by
  rw [tripleSingleQuoted, List.append_assoc, List.append_assoc,
    List.append_assoc]
  rfl

theorem readQuoted?_tripleDoubleQuoted (text : Text) {rest : Text}
    (h : rest.head? ≠ some '"') :
    readQuoted? (tripleDoubleQuoted text ++ rest) = some (text, rest) := by
  have hBody : LinesBody '"' true 0 (escapeOverLines 0 text) :=
    linesBody_escapeOverLines (by omega) text
  rw [tripleDoubleQuoted_append, readQuoted?,
    hBody.readOverLines? (plainBody_escapeOverLines 0 text) (by decide) h,
    if_pos rfl, unescapeFrom?_escapeOverLines]
  rfl

theorem readQuoted?_tripleSingleQuoted {text rest : Text}
    (hText : ∀ c ∈ text, c = '\n' ∨ isPlain c = true)
    (hRun : longestRun '\'' text ≤ 2) (h : rest.head? ≠ some '\'') :
    readQuoted? (tripleSingleQuoted text ++ rest) = some (text, rest) := by
  have hBody : LinesBody '\'' false 0 text := linesBody_of_longestRun hRun
  have hPlain : PlainBody text text := fun c hc =>
    (hText c hc).symm.imp_right fun hBreak => ⟨hBreak, hBreak ▸ hc⟩
  rw [tripleSingleQuoted_append, readQuoted?,
    hBody.readOverLines? hPlain (by decide) h]
  rfl

/-- A text without a control character is plain but for its line breaks. -/
theorem plain_of_hasControl {text : Text} (h : hasControl text = false) :
    ∀ c ∈ text, c = '\n' ∨ isPlain c = true := by
  intro c hc
  have hOne := List.any_eq_false.mp h c hc
  rw [Bool.not_eq_true, Bool.not_eq_false', Bool.or_eq_true, beq_iff_eq] at hOne
  exact hOne.symm

/-- What may be written between single quotes on one line. -/
theorem plain_of_singleQuoted {text : Text} (hControl : hasControl text = false)
    (hBreak : text.contains '\n' = false) (hQuote : text.contains '\'' = false) :
    ∀ c ∈ text, isPlain c = true ∧ c ≠ '\'' := by
  intro c hc
  constructor
  · rcases plain_of_hasControl hControl c hc with rfl | hPlain
    · simp [hc] at hBreak
    · exact hPlain
  · rintro rfl
    simp [hc] at hQuote

/-- **A text that was written is read back**, in whichever way it is quoted. -/
theorem readQuoted?_quoted (text : Text) {rest : Text} (h : NoQuote rest) :
    readQuoted? (quoted text ++ rest) = some (text, rest) := by
  rw [quoted]
  split
  · exact readQuoted?_doubleQuoted text h.1
  split
  · rename_i hSingle
    simp only [Bool.and_eq_true, Bool.not_eq_true'] at hSingle
    exact readQuoted?_singleQuoted
      (plain_of_singleQuoted hSingle.1.1 hSingle.1.2 hSingle.2) h.2
  split
  · exact readQuoted?_tripleDoubleQuoted text h.1
  split
  · rename_i hTriple
    simp only [Bool.and_eq_true, Bool.not_eq_true', decide_eq_true_eq] at hTriple
    exact readQuoted?_tripleSingleQuoted (plain_of_hasControl hTriple.1)
      hTriple.2 h.2
  split
  · exact readQuoted?_tripleDoubleQuoted text h.1
  · exact readQuoted?_doubleQuoted text h.1

end QueryPhrase.Toml
