import Mathlib.Data.List.Basic
import QueryPhrase.Codec
import QueryPhrase.Proofs.Request.Committed
import QueryPhrase.Proofs.Term.Keyword
import QueryPhrase.Proofs.Text.Split

/-!
# Terms in the flat form

The value of a list is cut at two levels, at the delimiter into entries and at
the separator into fields, with one escape for both. An escaped field is whole
for either character, and a separator is whole for the delimiter, so an entry is
whole for the delimiter and each level undoes one joining. The fields of a
settled term say all there is to it, so the entry is read as the term it was
written for. None of this depends on which characters the separator and the
delimiter are: they may occur in columns, in values and in keywords.

## Main definitions

* `Codec.Unambiguous` — the codecs whose pairs can be told apart.

## Main results

* `Codec.fields_encodeTerm` — the fields of an entry.
* `Codec.decodeTerm?_encodeTerm` — the term of an entry.
* `Codec.decodeTerms_encodeTerms` — the terms of a value.
-/

namespace QueryPhrase.Codec

open Term

/-- A codec whose separator and delimiter differ from each other and from the
escape, and whose names are four. -/
structure Unambiguous (codec : Codec) : Prop where
  separator_ne_delimiter : codec.fieldSeparator ≠ codec.termDelimiter
  separator_ne_escape : codec.fieldSeparator ≠ '\\'
  delimiter_ne_escape : codec.termDelimiter ≠ '\\'
  names_nodup : [codec.filters, codec.sorters, codec.offset, codec.limit].Nodup

variable {codec : Codec}

/-! ## Fields and entries -/

/-- A field does not end at the separator. -/
theorem whole_encodeField_separator (text : Text) :
    Text.Whole codec.fieldSeparator (codec.encodeField text) :=
  Text.whole_escape (by simp) text

/-- A field does not end at the delimiter. -/
theorem whole_encodeField_delimiter (text : Text) :
    Text.Whole codec.termDelimiter (codec.encodeField text) :=
  Text.whole_escape (by simp) text

theorem fieldsOf_ne_nil (term : Term) : fieldsOf term ≠ [] := by
  unfold fieldsOf
  cases term.kind <;> simp

/-- **The fields of an entry** are those it was written from. -/
theorem fields_encodeTerm (h : codec.Unambiguous) (term : Term) :
    (splitUnescaped codec.fieldSeparator (codec.encodeTerm term)).map unescape =
      fieldsOf term := by
  have hWhole : ∀ field ∈ (fieldsOf term).map codec.encodeField,
      Text.Whole codec.fieldSeparator field := by
    intro field hField
    obtain ⟨text, _, hText⟩ := List.mem_map.mp hField
    rw [← hText]
    exact whole_encodeField_separator text
  have hFields : (fieldsOf term).map codec.encodeField ≠ [] := by
    rw [ne_eq, List.map_eq_nil_iff]
    exact fieldsOf_ne_nil term
  have hRead : ∀ text ∈ fieldsOf term,
      (unescape ∘ codec.encodeField) text = text :=
    fun text _ => unescape_escape _ text
  rw [encodeTerm, splitUnescaped_joined h.separator_ne_escape hFields hWhole,
    List.map_map, List.map_congr_left hRead, List.map_id']

/-- An entry does not end at the delimiter. -/
theorem whole_encodeTerm (h : codec.Unambiguous) (term : Term) :
    Text.Whole codec.termDelimiter (codec.encodeTerm term) := by
  refine Text.whole_joined
    (Text.whole_singleton h.separator_ne_delimiter h.separator_ne_escape) ?_
  intro field hField
  obtain ⟨text, _, hText⟩ := List.mem_map.mp hField
  rw [← hText]
  exact whole_encodeField_delimiter text

/-- No entry is empty: a keyword is not, and between two fields there is a
separator. -/
theorem encodeTerm_ne_nil (h : codec.Unambiguous) (term : Term) :
    codec.encodeTerm term ≠ [] := by
  intro hNil
  have hFields := fields_encodeTerm h term
  rw [hNil] at hFields
  have hEmpty : fieldsOf term = [[]] := hFields.symm
  unfold fieldsOf at hEmpty
  cases hKind : term.kind with
  | matcher => simp [hKind] at hEmpty
  | sorter => simp [hKind] at hEmpty
  | separator =>
      simp only [hKind, List.cons.injEq, and_true] at hEmpty
      exact term.operator.keyword_ne_nil hEmpty

/-! ## Terms -/

/-- A term's role says which kind of list can hold it. -/
private theorem accepts_iff {kind : ListKind} {role : TermKind} :
    kind.accepts role = true ↔
      kind = if role = .sorter then .sorter else .filter := by
  cases kind <;> cases role <;> decide

/-- A column that is not empty is read as it was. -/
theorem columnOf?_getD {column : Option Text} (h : column ≠ some []) :
    columnOf? (column.getD []) = column := by
  cases column with
  | none => rfl
  | some text =>
      have hText : text ≠ [] := fun hNil => h (by rw [hNil])
      simp [columnOf?, hText]

/-- **The term of an entry** is the one it was written for, in a list that can
hold it. -/
theorem decodeTerm?_encodeTerm (h : codec.Unambiguous) {kind : ListKind}
    {term : Term}
    (hAccepts : kind.accepts term.kind = true) (hSettled : term.Settled) :
    codec.decodeTerm? kind (codec.encodeTerm term) = some term := by
  have hFields := fields_encodeTerm h term
  have hColumn := columnOf?_getD hSettled.plain.column_ne
  have hKeyword := term.operator.ofKind?_keyword
  have hId := hSettled.id_none
  rw [accepts_iff] at hAccepts
  unfold decodeTerm?
  rw [hFields, hAccepts]
  obtain ⟨id, column, operator, value⟩ := term
  simp only at hColumn hKeyword hId
  subst hId
  cases hKind : operator.kind with
  | separator =>
      obtain ⟨hNoColumn, hNoValue⟩ := hSettled.plain.bare hKind
      simp only at hNoColumn hNoValue
      rw [hKind] at hKeyword
      simp [fieldsOf, Term.kind, hKind, hKeyword, ofSeparator, hNoColumn,
        hNoValue]
  | matcher =>
      have hValued := hSettled.valued (by simp [Term.kind, hKind])
      obtain ⟨text, hText⟩ := Option.isSome_iff_exists.mp hValued
      simp only at hText
      rw [hKind] at hKeyword
      simp [fieldsOf, Term.kind, hKind, hKeyword, hColumn, hText]
  | sorter =>
      have hOperator : operator = .orderBy := by
        cases operator with
        | orderBy => rfl
        | _ => cases hKind
      have hValued := hSettled.valued (by simp [Term.kind, hKind])
      obtain ⟨text, hText⟩ := Option.isSome_iff_exists.mp hValued
      simp only at hText
      subst hOperator
      simp [fieldsOf, Term.kind, Operator.kind, hColumn, hText]

/-- **The terms of a value** are those it was written for. -/
theorem decodeTerms_encodeTerms (h : codec.Unambiguous) {kind : ListKind}
    {terms : List Term}
    (hAccepts : ∀ term ∈ terms, kind.accepts term.kind = true)
    (hSettled : ∀ term ∈ terms, term.Settled) :
    codec.decodeTerms kind (codec.encodeTerms terms) = terms := by
  by_cases hTerms : terms = []
  · rw [hTerms]
    rfl
  have hWhole : ∀ entry ∈ terms.map codec.encodeTerm,
      Text.Whole codec.termDelimiter entry := by
    intro entry hEntry
    obtain ⟨term, _, hTerm⟩ := List.mem_map.mp hEntry
    rw [← hTerm]
    exact whole_encodeTerm h term
  have hEntries : terms.map codec.encodeTerm ≠ [] := by
    rw [ne_eq, List.map_eq_nil_iff]
    exact hTerms
  have hKept : (terms.map codec.encodeTerm).filter (!·.isEmpty) =
      terms.map codec.encodeTerm := by
    rw [List.filter_eq_self]
    intro entry hEntry
    obtain ⟨term, _, hTerm⟩ := List.mem_map.mp hEntry
    rw [← hTerm]
    simp [encodeTerm_ne_nil h term]
  have hRead : ∀ term ∈ terms,
      (codec.decodeTerm? kind ∘ codec.encodeTerm) term = some term :=
    fun term hMem => decodeTerm?_encodeTerm h (hAccepts term hMem)
      (hSettled term hMem)
  rw [decodeTerms, encodeTerms,
    splitUnescaped_joined h.delimiter_ne_escape hEntries hWhole, hKept,
    List.filterMap_map, List.filterMap_congr hRead, List.filterMap_some]

end QueryPhrase.Codec
