import Mathlib.Data.List.Induction
import QueryPhrase.Text.Blank

/-!
# Words and blanks

A text is cut at its blanks: a word is taken up to the first blank, blanks are
taken up to the next word, and the blanks at the end are taken off. Each cut
exists, and taking or dropping characters finds it.

## Main definitions

* `Text.EndsWord`, `Text.StartsWord` — before what rest a word is over, and
  behind what text one may begin.

## Main results

* `Text.cut_word`, `Text.cut_blanks`, `Text.cut_tail` — the three cuts exist.
* `Text.takeWhile_word`, `Text.takeWhile_blanks`, `Text.dropWhile_tail` and the
  like — taking and dropping find them.
-/

namespace QueryPhrase.Text

theorem isBlank_of_mem_space {c : Char} (h : c ∈ [' ']) : isBlank c = true := by
  rw [List.mem_singleton.mp h]
  rfl

theorem startsBlank_cons (c : Char) (rest : Text) :
    startsBlank (c :: rest) = isBlank c := rfl

theorem startsBlank_append_of_ne_nil {front : Text} (hFront : front ≠ [])
    (rest : Text) : startsBlank (front ++ rest) = startsBlank front := by
  obtain ⟨c, others, hCons⟩ := List.exists_cons_of_ne_nil hFront
  rw [hCons]
  rfl

theorem startsBlank_of_blanks {blanks : Text} (hBlanks : blanks ≠ [])
    (hBlank : ∀ c ∈ blanks, isBlank c = true) : startsBlank blanks = true := by
  obtain ⟨c, others, hCons⟩ := List.exists_cons_of_ne_nil hBlanks
  rw [hCons, startsBlank_cons]
  exact hBlank c (by simp [hCons])

theorem startsBlank_of_word {word : Text}
    (hSolid : ∀ c ∈ word, isBlank c = false) : startsBlank word = false := by
  cases word with
  | nil => rfl
  | cons c others => exact hSolid c (by simp)

/-- A word is over before this rest: nothing follows it, or a blank. -/
def EndsWord (rest : Text) : Prop := rest = [] ∨ rest.startsBlank = true

/-- A word may begin behind this text: it is empty, or ends in a blank. -/
def StartsWord (before : Text) : Prop :=
  before = [] ∨ ∃ front c, before = front ++ [c] ∧ isBlank c = true

theorem endsWord_cons {c : Char} {rest : Text} :
    EndsWord (c :: rest) ↔ isBlank c = true := by
  simp [EndsWord, startsBlank]

theorem endsWord_append {rest : Text} (hRest : rest ≠ []) (more : Text) :
    EndsWord (rest ++ more) ↔ EndsWord rest := by
  rw [EndsWord, EndsWord, startsBlank_append_of_ne_nil hRest,
    List.append_eq_nil_iff]
  simp [hRest]

theorem startsWord_of_blanks {before blanks : Text} (hBlanks : blanks ≠ [])
    (hBlank : ∀ c ∈ blanks, isBlank c = true) :
    StartsWord (before ++ blanks) := by
  obtain ⟨front, last, hConcat⟩ :=
    (List.eq_nil_or_concat blanks).resolve_left hBlanks
  rw [List.concat_eq_append] at hConcat
  right
  refine ⟨before ++ front, last, ?_, hBlank last (by simp [hConcat])⟩
  rw [hConcat, List.append_assoc]

/-- Two cuts of a text at the first of its occurrences of a character are the
same. -/
theorem first_unique {c : Char} {front front' rest rest' : Text}
    (hFront : c ∉ front) (hFront' : c ∉ front')
    (hText : front ++ c :: rest = front' ++ c :: rest') :
    front = front' ∧ rest = rest' := by
  have hNil : ∀ {front more rest rest' : Text}, c ∉ front ++ more →
      c :: rest = more ++ c :: rest' → more = [] := by
    intro front more rest rest' hMore hSame
    cases more with
    | nil => rfl
    | cons d others =>
        rw [List.cons_append, List.cons.injEq] at hSame
        exact absurd (by simp [hSame.1]) hMore
  have hSame : front = front' := by
    rcases List.append_eq_append_iff.mp hText with
      ⟨more, hLonger, hRest⟩ | ⟨more, hLonger, hRest⟩
    · rw [hLonger] at hFront'
      rw [hLonger, hNil hFront' hRest, List.append_nil]
    · rw [hLonger] at hFront
      rw [hLonger, hNil hFront hRest, List.append_nil]
  subst hSame
  exact ⟨rfl, (List.cons.inj (List.append_cancel_left hText)).2⟩

/-! ## A word in front -/

section Word

variable {word rest : Text}

theorem takeWhile_word (hSolid : ∀ c ∈ word, isBlank c = false)
    (hRest : EndsWord rest) :
    (word ++ rest).takeWhile (fun c => !isBlank c) = word := by
  have hAll : ∀ c ∈ word, (!isBlank c) = true := by
    intro c hMem
    rw [hSolid c hMem]
    rfl
  rw [List.takeWhile_append_of_pos hAll]
  cases rest with
  | nil => simp
  | cons c others =>
      have hBlank : isBlank c = true := endsWord_cons.mp hRest
      simp [hBlank]

theorem dropWhile_word (hSolid : ∀ c ∈ word, isBlank c = false)
    (hRest : EndsWord rest) :
    (word ++ rest).dropWhile (fun c => !isBlank c) = rest := by
  have hAll : ∀ c ∈ word, (!isBlank c) = true := by
    intro c hMem
    rw [hSolid c hMem]
    rfl
  rw [List.dropWhile_append_of_pos hAll]
  cases rest with
  | nil => simp
  | cons c others =>
      have hBlank : isBlank c = true := endsWord_cons.mp hRest
      simp [hBlank]

/-- The word at the front of a text is one word. -/
theorem word_unique {word' rest' : Text}
    (hSolid : ∀ c ∈ word, isBlank c = false) (hRest : EndsWord rest)
    (hSolid' : ∀ c ∈ word', isBlank c = false) (hRest' : EndsWord rest')
    (hText : word ++ rest = word' ++ rest') : word = word' ∧ rest = rest' := by
  have hWord : word = word' := by
    rw [← takeWhile_word hSolid hRest, hText, takeWhile_word hSolid' hRest']
  subst hWord
  exact ⟨rfl, List.append_cancel_left hText⟩

theorem cut_word (text : Text) : ∃ word rest, text = word ++ rest ∧
    (∀ c ∈ word, isBlank c = false) ∧ EndsWord rest := by
  induction text with
  | nil => exact ⟨[], [], rfl, by simp, Or.inl rfl⟩
  | cons c others ih =>
      cases hBlank : isBlank c with
      | true => exact ⟨[], c :: others, rfl, by simp, Or.inr hBlank⟩
      | false =>
          obtain ⟨word, rest, hSplit, hSolid, hRest⟩ := ih
          refine ⟨c :: word, rest, by rw [hSplit]; rfl, ?_, hRest⟩
          rw [List.forall_mem_cons]
          exact ⟨hBlank, hSolid⟩

end Word

/-! ## Blanks in front -/

section Blanks

variable {blanks rest : Text}

theorem takeWhile_blanks (hBlank : ∀ c ∈ blanks, isBlank c = true)
    (hRest : rest.startsBlank = false) :
    (blanks ++ rest).takeWhile isBlank = blanks := by
  rw [List.takeWhile_append_of_pos hBlank]
  cases rest with
  | nil => simp
  | cons c others =>
      have hSolid : isBlank c = false := hRest
      simp [hSolid]

theorem dropWhile_blanks (hBlank : ∀ c ∈ blanks, isBlank c = true)
    (hRest : rest.startsBlank = false) :
    (blanks ++ rest).dropWhile isBlank = rest := by
  rw [List.dropWhile_append_of_pos hBlank]
  cases rest with
  | nil => simp
  | cons c others =>
      have hSolid : isBlank c = false := hRest
      simp [hSolid]

theorem cut_blanks (text : Text) : ∃ blanks rest, text = blanks ++ rest ∧
    (∀ c ∈ blanks, isBlank c = true) ∧ rest.startsBlank = false := by
  induction text with
  | nil => exact ⟨[], [], rfl, by simp, rfl⟩
  | cons c others ih =>
      cases hBlank : isBlank c with
      | false => exact ⟨[], c :: others, rfl, by simp, hBlank⟩
      | true =>
          obtain ⟨blanks, rest, hSplit, hAll, hRest⟩ := ih
          refine ⟨c :: blanks, rest, by rw [hSplit]; rfl, ?_, hRest⟩
          rw [List.forall_mem_cons]
          exact ⟨hBlank, hAll⟩

end Blanks

/-! ## Blanks at the end -/

section Tail

variable {kept tail : Text}

/-- The last character is not blank, if there is one. -/
def EndsSolid (text : Text) : Prop :=
  ∀ last, text.getLast? = some last → isBlank last = false

theorem endsSolid_nil : EndsSolid [] := by
  intro last hLast
  cases hLast

theorem endsSolid_concat {c : Char} (text : Text) (hSolid : isBlank c = false) :
    EndsSolid (text ++ [c]) := by
  intro last hLast
  rw [List.getLast?_concat, Option.some.injEq] at hLast
  rw [← hLast]
  exact hSolid

theorem endsSolid_of_word {word : Text} (hSolid : ∀ c ∈ word, isBlank c = false) :
    EndsSolid word := by
  intro last hLast
  exact hSolid last (List.mem_of_getLast? hLast)

/-- What comes before the end does not matter. -/
theorem endsSolid_append {text : Text} (hText : text ≠ []) (front : Text) :
    EndsSolid (front ++ text) ↔ EndsSolid text := by
  have hLast : (front ++ text).getLast? = text.getLast? := by
    rw [List.getLast?_append, List.getLast?_eq_some_getLast hText,
      Option.some_or]
  rw [EndsSolid, EndsSolid, hLast]

theorem dropWhile_tail (hKept : EndsSolid kept)
    (hBlank : ∀ c ∈ tail, isBlank c = true) :
    ((kept ++ tail).reverse.dropWhile isBlank).reverse = kept := by
  have hReverse : ∀ c ∈ tail.reverse, isBlank c = true :=
    fun c hMem => hBlank c (List.mem_reverse.mp hMem)
  rw [List.reverse_append, List.dropWhile_append_of_pos hReverse]
  rcases List.eq_nil_or_concat kept with hNil | ⟨front, last, hConcat⟩
  · rw [hNil]
    rfl
  · rw [List.concat_eq_append] at hConcat
    have hLast : isBlank last = false := hKept last (by simp [hConcat])
    rw [hConcat]
    simp [hLast]

theorem cut_tail (text : Text) : ∃ kept tail, text = kept ++ tail ∧
    EndsSolid kept ∧ ∀ c ∈ tail, isBlank c = true := by
  induction text using List.reverseRecOn with
  | nil => exact ⟨[], [], rfl, endsSolid_nil, by simp⟩
  | append_singleton front c ih =>
      cases hBlank : isBlank c with
      | false =>
          exact ⟨front ++ [c], [], by simp, endsSolid_concat front hBlank,
            by simp⟩
      | true =>
          obtain ⟨kept, tail, hSplit, hKept, hAll⟩ := ih
          refine ⟨kept, tail ++ [c], by rw [hSplit, List.append_assoc], hKept,
            ?_⟩
          intro d hMem
          rw [List.mem_append, List.mem_singleton] at hMem
          rcases hMem with hIn | hLast
          · exact hAll d hIn
          · rw [hLast]
            exact hBlank

end Tail

end QueryPhrase.Text
