import QueryPhrase.Proofs.Text.Split

/-!
# Cutting a text at a separator

Cutting takes a text apart at every occurrence of the separator, and joining the
parts again gives the text back. Nothing escapes here: a part is any text without
the separator.

## Main definitions

* `Text.closed` — parts with a separator behind each of them.

## Main results

* `Text.splitAt_append`, `Text.splitAt_closed_append` — where a text is cut.
* `Text.joined_splitAt` — the parts of a text, joined again, are the text.
* `Text.takeWhile_append` — characters of a kind are taken up to where they end.
-/

namespace QueryPhrase

namespace Text

variable {separator : Char}

theorem splitAt_ne_nil (separator : Char) (text : Text) :
    splitAt separator text ≠ [] := by
  cases text with
  | nil => simp [splitAt]
  | cons c rest =>
      rw [splitAt]
      split
      · simp
      · cases splitAt separator rest <;> simp [consFirst]

/-- A text is cut at a separator. -/
theorem splitAt_append (separator : Char) (a b : Text) :
    splitAt separator (a ++ separator :: b) =
      splitAt separator a ++ splitAt separator b := by
  induction a with
  | nil => simp [splitAt]
  | cons c rest ih =>
      rw [List.cons_append, splitAt, splitAt, ih]
      by_cases hEnd : c = separator
      · rw [if_pos hEnd, if_pos hEnd, List.cons_append]
      · obtain ⟨part, parts, hParts⟩ :=
          List.exists_cons_of_ne_nil (splitAt_ne_nil separator rest)
        rw [if_neg hEnd, if_neg hEnd, hParts, List.cons_append, consFirst,
          consFirst, List.cons_append]

/-- A text without the separator is one part. -/
theorem splitAt_of_not_mem {text : Text} (h : separator ∉ text) :
    splitAt separator text = [text] := by
  induction text with
  | nil => rfl
  | cons c rest ih =>
      rw [List.mem_cons, not_or] at h
      rw [splitAt, if_neg (Ne.symm h.1), ih h.2, consFirst]

/-- The parts of a text do not hold the separator. -/
theorem not_mem_of_mem_splitAt {text part : Text}
    (h : part ∈ splitAt separator text) : separator ∉ part := by
  induction text generalizing part with
  | nil =>
      rw [splitAt, List.mem_singleton] at h
      rw [h]
      exact List.not_mem_nil
  | cons c rest ih =>
      obtain ⟨first, others, hParts⟩ :=
        List.exists_cons_of_ne_nil (splitAt_ne_nil separator rest)
      rw [splitAt] at h
      rw [hParts] at ih h
      split at h
      · rcases List.mem_cons.mp h with rfl | hRest
        · exact List.not_mem_nil
        · exact ih hRest
      · rename_i hOther
        rw [consFirst] at h
        rcases List.mem_cons.mp h with rfl | hRest
        · rw [List.mem_cons, not_or]
          exact ⟨Ne.symm hOther, ih (List.mem_cons_self ..)⟩
        · exact ih (List.mem_cons_of_mem _ hRest)

/-- The parts of a text, joined again, are the text. -/
theorem joined_splitAt (separator : Char) (text : Text) :
    joined [separator] (splitAt separator text) = text := by
  induction text with
  | nil => exact joined_singleton _ _
  | cons c rest ih =>
      obtain ⟨part, parts, hParts⟩ :=
        List.exists_cons_of_ne_nil (splitAt_ne_nil separator rest)
      rw [splitAt]
      rw [hParts] at ih ⊢
      split
      · rename_i hEnd
        rw [joined_cons_cons, ih, List.nil_append, List.singleton_append, hEnd]
      · rw [consFirst]
        cases parts with
        | nil =>
            rw [joined_singleton] at ih ⊢
            rw [ih]
        | cons next others =>
            rw [joined_cons_cons] at ih ⊢
            rw [List.cons_append, ih]

/-- Parts with a separator behind each of them. -/
def closed (separator : Char) (parts : List Text) : Text :=
  parts.flatMap (· ++ [separator])

theorem closed_append_singleton (separator : Char) (parts : List Text)
    (part : Text) : closed separator (parts ++ [part]) =
      closed separator parts ++ (part ++ [separator]) := by
  simp [closed]

theorem splitAt_closed_append {parts : List Text}
    (h : ∀ part ∈ parts, separator ∉ part) (text : Text) :
    splitAt separator (closed separator parts ++ text) =
      parts ++ splitAt separator text := by
  induction parts with
  | nil => rfl
  | cons part rest ih =>
      rw [List.forall_mem_cons] at h
      have hClosed : closed separator (part :: rest) ++ text =
          part ++ separator :: (closed separator rest ++ text) := by
        simp [closed]
      rw [hClosed, splitAt_append, splitAt_of_not_mem h.1, ih h.2]
      rfl

/-- Characters of a kind are taken up to the first one that is not. -/
theorem takeWhile_append {p : Char → Bool} {front rest : Text}
    (hFront : ∀ c ∈ front, p c = true)
    (hRest : ∀ c, rest.head? = some c → p c = false) :
    (front ++ rest).takeWhile p = front := by
  have hNone : rest.takeWhile p = [] := by
    cases rest with
    | nil => rfl
    | cons c others =>
        rw [List.takeWhile_cons, hRest c rfl]
        rfl
  rw [List.takeWhile_append_of_pos hFront, hNone, List.append_nil]

/-- A text without the separator is not cut. -/
theorem cutAt_of_not_mem {text : Text} (h : separator ∉ text) :
    cutAt separator text = (text, none) := by
  induction text with
  | nil => rfl
  | cons c rest ih =>
      rw [List.mem_cons, not_or] at h
      rw [cutAt, if_neg (Ne.symm h.1), ih h.2]

end Text

end QueryPhrase
