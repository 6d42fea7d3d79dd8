import QueryPhrase.Proofs.Text.Quoted

/-!
# Cutting what was joined

A text is whole for a delimiter when nothing in it ends a part, wherever it
stands: what follows it goes on in the same part. Escaped texts are whole, and
so are characters other than the delimiter and the backslash; whole texts one
after the other are whole. So a text joined from whole parts is cut into these
parts, and a part may be a text joined with another delimiter.

## Main definitions

* `Text.Whole` — nothing in the text ends a part.

## Main results

* `Text.whole_escape`, `Text.whole_joined` — what is whole.
* `splitUnescaped_append` — a text is cut at a delimiter that is not escaped.
* `splitUnescaped_joined` — whole parts are cut as they were joined.
* `splitUnescaped_backslash` — with the backslash as the delimiter nothing is cut.
-/

namespace QueryPhrase

namespace Text

/-- Puts a text in front of the first part. -/
def prependFirst (text : Text) (parts : List Text) : List Text :=
  text.foldr consFirst parts

theorem prependFirst_cons (text part : Text) (parts : List Text) :
    prependFirst text (part :: parts) = (text ++ part) :: parts := by
  induction text with
  | nil => rfl
  | cons c rest ih =>
      rw [prependFirst, List.foldr_cons]
      change consFirst c (prependFirst rest (part :: parts)) = _
      rw [ih]
      rfl

theorem prependFirst_append (a b : Text) (parts : List Text) :
    prependFirst (a ++ b) parts = prependFirst a (prependFirst b parts) :=
  List.foldr_append

/-- Nothing in the text ends a part: cutting goes on behind it in the same part.
-/
def Whole (delimiter : Char) (text : Text) : Prop :=
  ∀ rest : Text, splitUnescaped delimiter (text ++ rest) =
    prependFirst text (splitUnescaped delimiter rest)

theorem whole_nil (delimiter : Char) : Whole delimiter [] := fun _ => rfl

theorem Whole.append {delimiter : Char} {a b : Text} (ha : Whole delimiter a)
    (hb : Whole delimiter b) : Whole delimiter (a ++ b) := by
  intro rest
  rw [List.append_assoc, ha, hb, prependFirst_append]

/-- A backslash and the character it escapes. -/
theorem whole_escaped (delimiter c : Char) : Whole delimiter ['\\', c] := by
  intro rest
  change splitUnescaped delimiter ('\\' :: c :: rest) = _
  rw [splitUnescaped]
  rfl

/-- A character that neither ends a part nor escapes. -/
theorem whole_singleton {delimiter c : Char} (hDelimiter : c ≠ delimiter)
    (hBare : c ≠ '\\') : Whole delimiter [c] := by
  intro rest
  change splitUnescaped delimiter (c :: rest) = _
  cases rest with
  | nil => simp [splitUnescaped, hDelimiter, hBare, prependFirst]
  | cons d others => simp [splitUnescaped, hDelimiter, hBare, prependFirst]

/-- Escaped texts are whole when the delimiter is escaped. -/
theorem whole_escape {delimiter : Char} {special : Char → Bool}
    (hSpecial : special delimiter = true) (text : Text) :
    Whole delimiter (escape special text) := by
  induction text with
  | nil => exact whole_nil delimiter
  | cons c rest ih =>
      rw [escape_cons]
      by_cases hEscaped : (c = '\\' || special c) = true
      · rw [if_pos hEscaped]
        exact (whole_escaped delimiter c).append ih
      · rw [if_neg hEscaped]
        simp only [Bool.or_eq_true, decide_eq_true_eq, not_or] at hEscaped
        obtain ⟨hBare, hPlain⟩ := hEscaped
        have hDelimiter : c ≠ delimiter := by
          intro hSame
          rw [hSame, hSpecial] at hPlain
          exact hPlain rfl
        exact (whole_singleton hDelimiter hBare).append ih

theorem joined_singleton (separator part : Text) :
    joined separator [part] = part := by
  simp [joined, List.intercalate]

theorem joined_cons_cons (separator part next : Text) (parts : List Text) :
    joined separator (part :: next :: parts) =
      part ++ (separator ++ joined separator (next :: parts)) := by
  simp [joined, List.intercalate]

/-- Whole texts joined with a whole separator are whole. -/
theorem whole_joined {delimiter : Char} {separator : Text}
    (hSeparator : Whole delimiter separator) {parts : List Text}
    (hParts : ∀ part ∈ parts, Whole delimiter part) :
    Whole delimiter (joined separator parts) := by
  induction parts with
  | nil => exact whole_nil delimiter
  | cons part rest ih =>
      rw [List.forall_mem_cons] at hParts
      obtain ⟨hPart, hRest⟩ := hParts
      cases rest with
      | nil =>
          rw [joined_singleton]
          exact hPart
      | cons next others =>
          rw [joined_cons_cons]
          exact hPart.append (hSeparator.append (ih hRest))

end Text

/-- A delimiter that is no backslash begins a new part. -/
theorem splitUnescaped_delimiter {delimiter : Char}
    (hBare : delimiter ≠ '\\') (rest : Text) :
    splitUnescaped delimiter (delimiter :: rest) =
      [] :: splitUnescaped delimiter rest := by
  cases rest with
  | nil => simp [splitUnescaped, hBare]
  | cons c others => simp [splitUnescaped, hBare]

theorem splitUnescaped_ne_nil (delimiter : Char) (text : Text) :
    splitUnescaped delimiter text ≠ [] := by
  have hFirst : ∀ (c : Char) (parts : List Text),
      Text.consFirst c parts ≠ [] := by
    intro c parts
    cases parts <;> simp [Text.consFirst]
  induction text using splitUnescaped.induct delimiter with
  | case1 => simp [splitUnescaped]
  | case2 => simp [splitUnescaped]
  | case3 c rest _ =>
      rw [splitUnescaped]
      exact hFirst _ _
  | case4 rest hEnd hNext _ => simp [splitUnescaped]
  | case5 c rest hEnd hNext hOther _ =>
      rw [splitUnescaped, if_neg hOther]
      · exact hFirst _ _
      · exact hEnd
      · exact hNext

/-- What cuts a text behind a whole one cuts both. -/
private theorem Text.Whole.cuts {delimiter : Char} {a text rest : Text}
    (ha : Text.Whole delimiter a)
    (h : splitUnescaped delimiter (text ++ delimiter :: rest) =
      splitUnescaped delimiter text ++ splitUnescaped delimiter rest) :
    splitUnescaped delimiter (a ++ text ++ delimiter :: rest) =
      splitUnescaped delimiter (a ++ text) ++
        splitUnescaped delimiter rest := by
  obtain ⟨part, parts, hParts⟩ :=
    List.exists_cons_of_ne_nil (splitUnescaped_ne_nil delimiter text)
  rw [List.append_assoc, ha, ha, h, hParts, List.cons_append,
    Text.prependFirst_cons, Text.prependFirst_cons, List.cons_append]

/-- **A text is cut at a delimiter** that no backslash in front of it escapes. -/
theorem splitUnescaped_append {delimiter : Char} (hBare : delimiter ≠ '\\')
    {text : Text} (hEnds : endsUnescaped text = true) (rest : Text) :
    splitUnescaped delimiter (text ++ delimiter :: rest) =
      splitUnescaped delimiter text ++ splitUnescaped delimiter rest := by
  induction text using splitUnescaped.induct delimiter with
  | case1 => exact splitUnescaped_delimiter hBare rest
  | case2 => cases hEnds
  | case3 c text ih =>
      rw [endsUnescaped_escaped] at hEnds
      exact (Text.whole_escaped delimiter c).cuts (ih hEnds)
  | case4 text _ _ ih =>
      rw [endsUnescaped_cons hBare] at hEnds
      rw [List.cons_append, splitUnescaped_delimiter hBare, ih hEnds,
        splitUnescaped_delimiter hBare, List.cons_append]
  | case5 c text hEnd hNext hOther ih =>
      have hPlain : c ≠ '\\' := by
        rintro rfl
        cases text with
        | nil => exact hEnd rfl rfl
        | cons next others => exact hNext next others rfl rfl
      rw [endsUnescaped_cons hPlain] at hEnds
      exact (Text.whole_singleton hOther hPlain).cuts (ih hEnds)

/-- **Whole parts are cut as they were joined.** -/
theorem splitUnescaped_joined {delimiter : Char} (hBare : delimiter ≠ '\\')
    {parts : List Text} (hNonempty : parts ≠ [])
    (hParts : ∀ part ∈ parts, Text.Whole delimiter part) :
    splitUnescaped delimiter (Text.joined [delimiter] parts) = parts := by
  induction parts with
  | nil => exact absurd rfl hNonempty
  | cons part rest ih =>
      rw [List.forall_mem_cons] at hParts
      obtain ⟨hPart, hRest⟩ := hParts
      cases rest with
      | nil =>
          have hEnd := hPart []
          rw [List.append_nil] at hEnd
          rw [Text.joined_singleton, hEnd, splitUnescaped,
            Text.prependFirst_cons, List.append_nil]
      | cons next others =>
          rw [Text.joined_cons_cons, hPart, List.singleton_append,
            splitUnescaped_delimiter hBare, ih (List.cons_ne_nil _ _) hRest,
            Text.prependFirst_cons, List.append_nil]

/-- A backslash cuts nothing, even as the delimiter: it escapes what is behind
it. -/
theorem splitUnescaped_backslash (text : Text) :
    splitUnescaped '\\' text = [text] := by
  induction text using splitUnescaped.induct '\\' with
  | case1 => rfl
  | case2 => rfl
  | case3 c rest ih =>
      rw [splitUnescaped, ih]
      rfl
  | case4 rest hEnd hNext _ =>
      cases rest with
      | nil => exact absurd rfl (hEnd rfl)
      | cons c others => exact absurd rfl (hNext c others rfl)
  | case5 c rest hEnd hNext hOther ih =>
      rw [splitUnescaped, if_neg hOther, ih]
      · rfl
      · exact hEnd
      · exact hNext

end QueryPhrase
