import QueryPhrase.Settings
import Mathlib.Data.List.Basic

/-!
# Columns and their values

The values of columns are kept in the order of the columns, each column once. So
what is listed for each column already says all, and putting in values changes
them for one column and no other.

## Main definitions

* `ColumnValues.Ordered` — each column once, in the order of texts.

## Main results

* `ColumnValues.lookup_put`, `ColumnValues.Ordered.put` — what putting in does.
* `ColumnValues.Ordered.ext` — the values of each column are all there is.
* `ColumnValues.lookup_foldl_put` — of several values put in for a column the last
  ones count.
-/

namespace QueryPhrase

/-! ## The order of texts -/

namespace Text

theorem precedes_irrefl (a : Text) : ¬ Text.precedes a a = true := by
  induction a with
  | nil => simp [Text.precedes]
  | cons c rest ih => simpa [Text.precedes] using ih

theorem precedes_trans {a b c : Text} (hFirst : Text.precedes a b = true)
    (hSecond : Text.precedes b c = true) : Text.precedes a c = true := by
  induction a generalizing b c with
  | nil =>
      cases c with
      | nil => simp [Text.precedes] at hSecond
      | cons z zs => rfl
  | cons x xs ih =>
      cases b with
      | nil => simp [Text.precedes] at hFirst
      | cons y ys =>
          cases c with
          | nil => simp [Text.precedes] at hSecond
          | cons z zs =>
              -- the first characters decide wherever they differ
              rw [Text.precedes] at hFirst hSecond ⊢
              by_cases hXY : x = y
              · subst hXY
                by_cases hXZ : x = z
                · rw [if_pos hXZ] at hSecond ⊢
                  rw [if_pos rfl] at hFirst
                  exact ih hFirst hSecond
                · rw [if_neg hXZ] at hSecond ⊢
                  exact hSecond
              · rw [if_neg hXY, decide_eq_true_iff] at hFirst
                by_cases hYZ : y = z
                · subst hYZ
                  rw [if_neg hXY, decide_eq_true_iff]
                  exact hFirst
                · rw [if_neg hYZ, decide_eq_true_iff] at hSecond
                  have hXZ : x ≠ z := by
                    rintro rfl
                    omega
                  rw [if_neg hXZ, decide_eq_true_iff]
                  omega

/-- Of two texts, one comes before the other. -/
theorem precedes_total {a b : Text} (hOther : a ≠ b)
    (hNot : ¬ Text.precedes a b = true) : Text.precedes b a = true := by
  induction a generalizing b with
  | nil =>
      cases b with
      | nil => exact absurd rfl hOther
      | cons y ys => exact absurd rfl hNot
  | cons x xs ih =>
      cases b with
      | nil => rfl
      | cons y ys =>
          rw [Text.precedes] at hNot ⊢
          by_cases hSame : x = y
          · subst hSame
            rw [if_pos rfl] at hNot ⊢
            exact ih (fun hEq => hOther (by rw [hEq])) hNot
          · rw [if_neg hSame, decide_eq_true_iff] at hNot
            have hCode : x.toNat ≠ y.toNat := fun hEq =>
              hSame (Char.toNat_inj.mp hEq)
            rw [if_neg (Ne.symm hSame), decide_eq_true_iff]
            omega

/-- What is listed first for a text counts. -/
theorem lookup_cons {α : Type} (key other : Text) (value : α)
    (rest : List (Text × α)) : List.lookup other ((key, value) :: rest) =
      if other = key then some value else rest.lookup other := by
  rw [List.lookup_cons]
  by_cases hSame : other = key
  · rw [if_pos hSame, beq_iff_eq.mpr hSame]
  · rw [if_neg hSame, beq_eq_false_iff_ne.mpr hSame]

end Text

namespace ColumnValues

/-! ## Putting in values -/

/-- Each column stands there once, in the order of texts. -/
def Ordered (values : ColumnValues) : Prop :=
  values.Pairwise fun entry other => Text.precedes entry.1 other.1 = true

variable {column other : Text} {list : List Text} {values : ColumnValues}

theorem lookup_put (column : Text) (list : List Text) (values : ColumnValues)
    (other : Text) : (values.put column list).lookup other =
      if other = column then some list else values.lookup other := by
  induction values with
  | nil => exact Text.lookup_cons column other list []
  | cons entry rest ih =>
      obtain ⟨key, known⟩ := entry
      rw [put]
      split
      · next hKey =>
        subst hKey
        rw [Text.lookup_cons, Text.lookup_cons]
        split <;> rfl
      · next hKey =>
        split
        · exact Text.lookup_cons column other list _
        · rw [Text.lookup_cons, Text.lookup_cons, ih]
          by_cases hHere : other = key
          · rw [if_pos hHere, if_pos hHere, if_neg (hHere ▸ hKey)]
          · rw [if_neg hHere, if_neg hHere]

theorem mem_put {entry : Text × List Text}
    (h : entry ∈ values.put column list) : entry = (column, list) ∨
      entry ∈ values := by
  induction values with
  | nil => simpa [put] using h
  | cons first rest ih =>
      obtain ⟨key, known⟩ := first
      rw [put] at h
      split at h
      · rw [List.mem_cons] at h ⊢
        tauto
      · split at h
        · rw [List.mem_cons] at h
          exact h
        · rw [List.mem_cons] at h ⊢
          tauto

theorem Ordered.put (h : values.Ordered) (column : Text) (list : List Text) :
    (values.put column list).Ordered := by
  induction values with
  | nil => exact List.pairwise_singleton _ _
  | cons first rest ih =>
      obtain ⟨key, known⟩ := first
      obtain ⟨hFirst, hRest⟩ := List.pairwise_cons.mp h
      rw [ColumnValues.put]
      split
      · next hKey =>
        subst hKey
        exact List.pairwise_cons.mpr ⟨hFirst, hRest⟩
      · next hKey =>
        split
        · next hBefore =>
          refine List.pairwise_cons.mpr ⟨?_, h⟩
          rw [List.forall_mem_cons]
          exact ⟨hBefore, fun entry hEntry =>
            Text.precedes_trans hBefore (hFirst entry hEntry)⟩
        · next hNot =>
          refine List.pairwise_cons.mpr ⟨fun entry hEntry => ?_, ih hRest⟩
          rcases mem_put hEntry with hNew | hOld
          · rw [hNew]
            exact Text.precedes_total (Ne.symm hKey) hNot
          · exact hFirst entry hOld

/-! ## All there is -/

/-- In front of the first column nothing is listed. -/
theorem lookup_eq_none_of_precedes
    (h : ∀ entry ∈ values, Text.precedes column entry.1 = true) :
    values.lookup column = none := by
  rw [List.lookup_eq_none_iff]
  intro entry hEntry
  rw [bne_iff_ne]
  rintro rfl
  exact Text.precedes_irrefl _ (h entry hEntry)

/-- What comes before the first column comes before all of them. -/
private theorem Ordered.before {key : Text} {rest : ColumnValues}
    (h : Ordered ((key, list) :: rest))
    (hBefore : Text.precedes column key = true) :
    ∀ entry ∈ (key, list) :: rest, Text.precedes column entry.1 = true := by
  rw [List.forall_mem_cons]
  exact ⟨hBefore, fun entry hEntry => Text.precedes_trans hBefore
    ((List.pairwise_cons.mp h).1 entry hEntry)⟩

/-- **The values of each column are all there is.** -/
theorem Ordered.ext {others : ColumnValues} (h : values.Ordered)
    (hOthers : others.Ordered)
    (hSame : ∀ column, values.lookup column = others.lookup column) :
    values = others := by
  induction values generalizing others with
  | nil =>
      cases others with
      | nil => rfl
      | cons first rest =>
          have hFirst := hSame first.1
          rw [Text.lookup_cons, if_pos rfl] at hFirst
          cases hFirst
  | cons first rest ih =>
      obtain ⟨key, list⟩ := first
      obtain ⟨hFirst, hRest⟩ := List.pairwise_cons.mp h
      cases others with
      | nil =>
          have hHere := hSame key
          rw [Text.lookup_cons, if_pos rfl] at hHere
          cases hHere
      | cons first' rest' =>
          obtain ⟨key', list'⟩ := first'
          obtain ⟨hFirst', hRest'⟩ := List.pairwise_cons.mp hOthers
          have hKey : key = key' := by
            -- else the one in front is listed on one side only
            by_contra hOther
            by_cases hBefore : Text.precedes key key' = true
            · have hNone := hSame key
              rw [lookup_eq_none_of_precedes (hOthers.before hBefore),
                Text.lookup_cons, if_pos rfl] at hNone
              cases hNone
            · have hAfter := Text.precedes_total hOther hBefore
              have hNone := hSame key'
              rw [lookup_eq_none_of_precedes (h.before hAfter),
                Text.lookup_cons, if_pos rfl] at hNone
              cases hNone
          subst hKey
          have hList := hSame key
          rw [Text.lookup_cons, Text.lookup_cons, if_pos rfl, if_pos rfl,
            Option.some.injEq] at hList
          subst hList
          refine congrArg _ (ih hRest hRest' fun column => ?_)
          by_cases hColumn : column = key
          · rw [hColumn, lookup_eq_none_of_precedes hFirst,
              lookup_eq_none_of_precedes hFirst']
          · have hBoth := hSame column
            rwa [Text.lookup_cons, Text.lookup_cons, if_neg hColumn,
              if_neg hColumn] at hBoth

/-! ## Putting in several -/

/-- Of several values put in for a column the last ones count. -/
theorem lookup_foldl_put (entries values : ColumnValues) (column : Text) :
    (entries.foldl (fun values entry => values.put entry.1 entry.2)
        values).lookup column =
      (entries.reverse.lookup column).or (values.lookup column) := by
  induction entries generalizing values with
  | nil => rfl
  | cons entry rest ih =>
      obtain ⟨key, list⟩ := entry
      rw [List.foldl_cons, ih, lookup_put, List.reverse_cons,
        List.lookup_append, Option.or_assoc, Text.lookup_cons]
      split <;> rfl

theorem Ordered.foldl_put (h : values.Ordered) (entries : ColumnValues) :
    (entries.foldl (fun values entry => values.put entry.1 entry.2)
      values).Ordered := by
  induction entries generalizing values with
  | nil => exact h
  | cons entry rest ih => exact ih (h.put entry.1 entry.2)

/-- Where each column stands once, it makes no difference from which end it is
looked up. -/
theorem Ordered.lookup_reverse (h : values.Ordered) (column : Text) :
    values.reverse.lookup column = values.lookup column := by
  induction values with
  | nil => rfl
  | cons entry rest ih =>
      obtain ⟨key, list⟩ := entry
      obtain ⟨hFirst, hRest⟩ := List.pairwise_cons.mp h
      rw [List.reverse_cons, List.lookup_append, ih hRest, Text.lookup_cons,
        Text.lookup_cons]
      by_cases hColumn : column = key
      · rw [if_pos hColumn, hColumn, lookup_eq_none_of_precedes hFirst,
          Option.none_or, if_pos rfl]
      · rw [if_neg hColumn, if_neg hColumn]
        exact Option.or_none

end ColumnValues

end QueryPhrase
