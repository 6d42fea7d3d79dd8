import Mathlib.Data.List.Infix
import Mathlib.Data.List.TakeWhile
import QueryPhrase.Text.Lowercase

/-!
# Lowercase of a part

Whether a part of a text is still a part of it in lowercase depends on the
capital sigmas, as they alone look at what is around them. A sigma is settled in
a part when nothing around the part can change its form: a cased character follows
it in the part, or one that is not cased stands in front of it, or the part shows
both that a cased one stands in front of it and that one that is not follows.
Characters that are case-ignorable do not count.

A part with a sigma that is not settled is lost in some text. A letter in front
of the part, or behind it, turns the sigma into its other form, and it turns no
other one back. So the lowercase of the text has too few sigmas of that form for
the lowercase of the part to be in it.

## Main definitions

* `firstCase?` — whether the first character that counts is cased.
* `lowercaseIn` — the lowercase of a text between two others.
* `SigmaSettled`, `SigmasSettled` — the sigmas that nothing around can change.

## Main results

* `lowercaseIn_append` — the lowercase of a part, in its place.
* `SigmasSettled.lowercaseIn_eq` — a part is lowercased as on its own.
* `forall_lowercase_infix_iff` — the parts that are never lost.
-/

namespace QueryPhrase

/-! ## What counts for a sigma -/

/-- Whether the first character that is not case-ignorable is cased, if there is
one. -/
def firstCase? (text : Text) : Option Bool :=
  (text.find? (!caseIgnorable.has ·)).map cased.has

theorem casedFirst_eq (text : Text) :
    casedFirst text = (firstCase? text).getD false := by
  rw [casedFirst, firstCase?, List.find?_not_eq_head?_dropWhile]
  cases (text.dropWhile caseIgnorable.has).head? <;> rfl

/-- Only when no character counts is it looked at what is behind them. -/
theorem firstCase?_append (a b : Text) :
    firstCase? (a ++ b) = (firstCase? a).or (firstCase? b) := by
  rw [firstCase?, List.find?_append, Option.map_or]
  rfl

/-- The form of a sigma, from what counts around it. -/
theorem lowercaseSigma_eq (reversedBefore after : Text) :
    lowercaseSigma reversedBefore after =
      if (firstCase? reversedBefore).getD false &&
        !(firstCase? after).getD false then 'ς' else 'σ' := by
  rw [lowercaseSigma, casedFirst_eq, casedFirst_eq]

/-- A sigma whose form nothing farther away can change. -/
def SigmaSettled (reversedBefore after : Text) : Prop :=
  firstCase? after = some true ∨ firstCase? reversedBefore = some false ∨
    (firstCase? reversedBefore = some true ∧ firstCase? after = some false)

theorem SigmaSettled.lowercaseSigma_append {reversedBefore after : Text}
    (h : SigmaSettled reversedBefore after) (farBefore farAfter : Text) :
    lowercaseSigma (reversedBefore ++ farBefore) (after ++ farAfter) =
      lowercaseSigma reversedBefore after := by
  rw [lowercaseSigma_eq, lowercaseSigma_eq, firstCase?_append,
    firstCase?_append]
  rcases h with hAfter | hBefore | ⟨hBefore, hAfter⟩
  · simp [hAfter]
  · simp [hBefore]
  · simp [hBefore, hAfter]

/-! ## A text between two others -/

/-- The lowercase of a text between two others, the one before it reversed. -/
def lowercaseIn (reversedBefore after : Text) : Text → Text
  | [] => []
  | c :: rest =>
    (if c = 'Σ' then [lowercaseSigma reversedBefore (rest ++ after)]
      else lowercaseChar c) ++ lowercaseIn (c :: reversedBefore) after rest

/-- **The lowercase of a part** is that of the text around it. -/
theorem lowercaseIn_append (a b : Text) :
    ∀ reversedBefore after : Text,
      lowercaseIn reversedBefore after (a ++ b) =
        lowercaseIn reversedBefore (b ++ after) a ++
          lowercaseIn (a.reverse ++ reversedBefore) after b := by
  induction a with
  | nil => exact fun _ _ => rfl
  | cons c rest ih =>
      intro reversedBefore after
      rw [List.cons_append, lowercaseIn, ih, lowercaseIn, List.append_assoc,
        List.append_assoc, List.reverse_cons, List.append_assoc]
      rfl

theorem lowercaseFrom_eq (text : Text) : ∀ reversedBefore : Text,
    lowercaseFrom reversedBefore text = lowercaseIn reversedBefore [] text := by
  induction text with
  | nil => exact fun _ => rfl
  | cons c rest ih =>
      intro reversedBefore
      rw [lowercaseFrom, lowercaseIn, ih, List.append_nil]

theorem lowercase_eq (text : Text) : lowercase text = lowercaseIn [] [] text :=
  lowercaseFrom_eq text []

/-! ## Settled sigmas -/

/-- Every capital sigma of the text is settled in it. -/
def SigmasSettled (text : Text) : Prop :=
  ∀ before after, text = before ++ 'Σ' :: after →
    SigmaSettled before.reverse after

/-- Without a capital sigma there is none that is not settled. -/
theorem sigmasSettled_of_not_mem {text : Text} (h : 'Σ' ∉ text) :
    SigmasSettled text := by
  rintro before after rfl
  exact absurd (List.mem_append_right before List.mem_cons_self) h

/-- Behind some text that belongs to the part, the rest of the part is lowercased
the same way whatever is around the part. -/
private theorem lowercaseIn_of_settled {text : Text}
    (farBefore farAfter : Text) :
    ∀ near : Text, (∀ before after, text = before ++ 'Σ' :: after →
        SigmaSettled (before.reverse ++ near) after) →
      lowercaseIn (near ++ farBefore) farAfter text =
        lowercaseIn near [] text := by
  induction text with
  | nil => exact fun _ _ => rfl
  | cons c rest ih =>
      intro near hSettled
      have hRest : lowercaseIn (c :: near ++ farBefore) farAfter rest =
          lowercaseIn (c :: near) [] rest := by
        refine ih (c :: near) fun before after hCut => ?_
        have hNear := hSettled (c :: before) after (by rw [hCut]; rfl)
        rwa [List.reverse_cons, List.append_assoc] at hNear
      rw [lowercaseIn, lowercaseIn, List.append_nil, ← List.cons_append, hRest]
      split
      · next hSigma =>
        subst hSigma
        have hForm := (hSettled [] rest rfl).lowercaseSigma_append farBefore
          farAfter
        rw [List.reverse_nil, List.nil_append] at hForm
        rw [hForm]
      · rfl

/-- **A part with settled sigmas is lowercased as on its own.** -/
theorem SigmasSettled.lowercaseIn_eq {text : Text} (h : SigmasSettled text)
    (farBefore farAfter : Text) :
    lowercaseIn farBefore farAfter text = lowercase text := by
  rw [lowercase_eq]
  refine lowercaseIn_of_settled farBefore farAfter [] ?_
  intro before after hCut
  rw [List.append_nil]
  exact h before after hCut

theorem SigmasSettled.lowercase_infix {part text : Text}
    (h : SigmasSettled part) (hPart : part <:+: text) :
    lowercase part <:+: lowercase text := by
  obtain ⟨before, after, rfl⟩ := hPart
  rw [lowercase_eq (before ++ part ++ after), lowercaseIn_append,
    lowercaseIn_append, h.lowercaseIn_eq]
  exact ⟨_, _, rfl⟩

/-! ## Counting the forms -/

section Count

variable {form : Char} {before before' after after' : Text}

/-- Where a sigma has the form in the first place only if it has it in the
second, the form comes no more often in the first. -/
theorem count_lowercaseIn_le {text : Text} : ∀ {before before' : Text},
    (∀ near next, lowercaseSigma (near ++ before) (next ++ after) = form →
      lowercaseSigma (near ++ before') (next ++ after') = form) →
    (lowercaseIn before after text).count form ≤
      (lowercaseIn before' after' text).count form := by
  induction text with
  | nil => exact fun _ => Nat.le_refl _
  | cons c rest ih =>
      intro before before' hForms
      have hRest : (lowercaseIn (c :: before) after rest).count form ≤
          (lowercaseIn (c :: before') after' rest).count form := by
        refine ih fun near next hForm => ?_
        have hNear := hForms (near ++ [c]) next
        rw [List.append_assoc, List.append_assoc] at hNear
        exact hNear hForm
      rw [lowercaseIn, lowercaseIn, List.count_append, List.count_append]
      refine Nat.add_le_add ?_ hRest
      split
      · rw [List.count_singleton, List.count_singleton]
        have hHere := hForms [] rest
        rw [List.nil_append, List.nil_append] at hHere
        split
        · next hForm => rw [beq_iff_eq] at hForm; simp [hHere hForm]
        · exact Nat.zero_le _
      · exact Nat.le_refl _

/-- And where one sigma has the form in the second place alone, the form comes
less often in the first. -/
theorem count_lowercaseIn_lt {near next : Text}
    (hForms : ∀ near next,
      lowercaseSigma (near ++ before) (next ++ after) = form →
        lowercaseSigma (near ++ before') (next ++ after') = form)
    (hHere : lowercaseSigma (near.reverse ++ before) (next ++ after) ≠ form)
    (hThere :
      lowercaseSigma (near.reverse ++ before') (next ++ after') = form) :
    (lowercaseIn before after (near ++ 'Σ' :: next)).count form <
      (lowercaseIn before' after' (near ++ 'Σ' :: next)).count form := by
  have hNear : (lowercaseIn before ('Σ' :: next ++ after) near).count form ≤
      (lowercaseIn before' ('Σ' :: next ++ after') near).count form := by
    refine count_lowercaseIn_le fun front back hForm => ?_
    rw [← List.append_assoc] at hForm ⊢
    exact hForms front _ hForm
  have hNext : (lowercaseIn ('Σ' :: (near.reverse ++ before)) after next).count
        form ≤
      (lowercaseIn ('Σ' :: (near.reverse ++ before')) after' next).count
        form := by
    refine count_lowercaseIn_le fun front back hForm => ?_
    rw [← List.cons_append, ← List.append_assoc] at hForm ⊢
    exact hForms _ back hForm
  rw [lowercaseIn_append, lowercaseIn_append, lowercaseIn, lowercaseIn,
    if_pos rfl, if_pos rfl]
  simp only [List.count_append, List.count_singleton, beq_iff_eq, hHere, hThere,
    if_true, if_false]
  omega

end Count

/-! ## Parts that are lost -/

theorem lowercaseSigma_eq_final_iff {reversedBefore after : Text} :
    lowercaseSigma reversedBefore after = 'ς' ↔
      casedFirst reversedBefore = true ∧ casedFirst after = false := by
  rw [lowercaseSigma]
  cases casedFirst reversedBefore <;> cases casedFirst after <;> decide

theorem lowercaseSigma_eq_medial_iff {reversedBefore after : Text} :
    lowercaseSigma reversedBefore after = 'σ' ↔
      casedFirst reversedBefore = false ∨ casedFirst after = true := by
  rw [lowercaseSigma]
  cases casedFirst reversedBefore <;> cases casedFirst after <;> decide

theorem casedFirst_eq_false_iff {text : Text} :
    casedFirst text = false ↔ firstCase? text ≠ some true := by
  rw [casedFirst_eq]
  rcases firstCase? text with _ | _ | _ <;> simp

/-- Where no cased character comes first, none does in what is in front. -/
theorem casedFirst_of_append {a b : Text} (h : casedFirst (a ++ b) = false) :
    casedFirst a = false := by
  rw [casedFirst_eq_false_iff, firstCase?_append] at h
  rw [casedFirst_eq_false_iff]
  intro hFirst
  rw [hFirst] at h
  exact h rfl

/-- A letter is the first character that counts behind some that do not. -/
theorem casedFirst_append_letter {text : Text} (h : firstCase? text = none) :
    casedFirst (text ++ ['a']) = true := by
  have hLetter : firstCase? ['a'] = some true := by decide +kernel
  rw [casedFirst_eq, firstCase?_append, h, hLetter]
  rfl

private theorem lowercase_cons_letter (text : Text) :
    lowercase ('a' :: text) = 'a' :: lowercaseIn ['a'] [] text := by
  rw [lowercase_eq, lowercaseIn, if_neg (by decide)]
  rfl

private theorem lowercase_append_letter (text : Text) :
    lowercase (text ++ ['a']) = lowercaseIn [] ['a'] text ++ ['a'] := by
  rw [lowercase_eq, lowercaseIn_append, lowercaseIn, if_neg (by decide)]
  rfl

/-- A text is not a part of one that has less of some character. -/
private theorem not_infix_of_count_lt {a b : Text} {c : Char}
    (h : b.count c < a.count c) : ¬ a <:+: b := fun hInfix =>
  absurd (hInfix.sublist.count_le c) (Nat.not_le_of_lt h)

/-- With a letter in front, a sigma with nothing that counts before it takes its
final form. -/
private theorem not_infix_cons_letter {near next : Text}
    (hBefore : firstCase? near.reverse = none)
    (hAfter : firstCase? next ≠ some true) :
    ¬ lowercase (near ++ 'Σ' :: next) <:+:
      lowercase ('a' :: (near ++ 'Σ' :: next)) := by
  have hNext : casedFirst next = false := casedFirst_eq_false_iff.mpr hAfter
  have hNear : casedFirst near.reverse = false := by
    rw [casedFirst_eq, hBefore]
    rfl
  apply not_infix_of_count_lt (c := 'σ')
  rw [lowercase_cons_letter, List.count_cons_of_ne (by decide),
    lowercase_eq (near ++ _)]
  refine count_lowercaseIn_lt (fun near next hForm => ?_) ?_ ?_
  · rw [lowercaseSigma_eq_medial_iff] at hForm ⊢
    rw [List.append_nil near]
    exact hForm.imp_left casedFirst_of_append
  · rw [ne_eq, lowercaseSigma_eq_medial_iff, casedFirst_append_letter hBefore,
      List.append_nil, hNext]
    decide
  · rw [lowercaseSigma_eq_medial_iff, List.append_nil, hNear]
    exact Or.inl rfl

/-- With a letter behind, a sigma with nothing that counts after it loses its
final form. -/
private theorem not_infix_append_letter {near next : Text}
    (hBefore : firstCase? near.reverse = some true)
    (hAfter : firstCase? next = none) :
    ¬ lowercase (near ++ 'Σ' :: next) <:+:
      lowercase (near ++ 'Σ' :: next ++ ['a']) := by
  have hNext : casedFirst next = false := by
    rw [casedFirst_eq, hAfter]
    rfl
  have hNear : casedFirst near.reverse = true := by
    rw [casedFirst_eq, hBefore]
    rfl
  apply not_infix_of_count_lt (c := 'ς')
  rw [lowercase_append_letter, List.count_append, List.count_singleton,
    if_neg (by decide), Nat.add_zero, lowercase_eq (near ++ _)]
  refine count_lowercaseIn_lt (fun near next hForm => ?_) ?_ ?_
  · rw [lowercaseSigma_eq_final_iff] at hForm ⊢
    rw [List.append_nil next]
    exact ⟨hForm.1, casedFirst_of_append hForm.2⟩
  · rw [ne_eq, lowercaseSigma_eq_final_iff, casedFirst_append_letter hAfter]
    simp
  · rw [lowercaseSigma_eq_final_iff, List.append_nil, List.append_nil]
    exact ⟨hNear, hNext⟩

/-- **A part with a sigma that is not settled is lost** in some text. -/
theorem exists_lowercase_not_infix {part : Text} (h : ¬ SigmasSettled part) :
    ∃ text, part <:+: text ∧ ¬ lowercase part <:+: lowercase text := by
  simp only [SigmasSettled, not_forall] at h
  obtain ⟨near, next, rfl, hOpen⟩ := h
  simp only [SigmaSettled, not_or, not_and] at hOpen
  obtain ⟨hAfter, hBefore, hBoth⟩ := hOpen
  rcases hFirst : firstCase? near.reverse with _ | _ | _
  · exact ⟨_, List.infix_cons (List.infix_refl _),
      not_infix_cons_letter hFirst hAfter⟩
  · exact absurd hFirst hBefore
  · have hNone : firstCase? next = none := by
      rcases hNext : firstCase? next with _ | _ | _
      · rfl
      · exact absurd hNext (hBoth hFirst)
      · exact absurd hNext hAfter
    exact ⟨_, (List.prefix_append _ _).isInfix,
      not_infix_append_letter hFirst hNone⟩

/-- **The parts that are never lost** are those with settled sigmas. -/
theorem forall_lowercase_infix_iff {part : Text} :
    (∀ text, part <:+: text → lowercase part <:+: lowercase text) ↔
      SigmasSettled part := by
  constructor
  · intro hKept
    by_contra hOpen
    obtain ⟨text, hPart, hLost⟩ := exists_lowercase_not_infix hOpen
    exact hLost (hKept text hPart)
  · exact fun h text => h.lowercase_infix

end QueryPhrase
