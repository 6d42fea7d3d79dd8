import QueryPhrase.CommandLine.Run
import QueryPhrase.Proofs.Codec.QueryString
import QueryPhrase.Proofs.Codec.RoundTrip

/-!
# Requests of a command line

A phrase, columns to sort by and counts make a request, and the request is
written as a query string. When there is no warning about the settings, the four
names are four and the separator is not the delimiter, so the query string is
read as the request it was written from, unless one of the two is the backslash.
There is no warning about that, and a value is then never cut at it: of two
sorters that were written at most one is read.

## Main definitions

* `Settings.KeepsRequests` — every request of a command line comes back.

## Main results

* `Settings.codecWarnings_eq_nil_iff` — what the warnings rule out.
* `CommandLine.filters_modelOf_eq_normalized` — what comes of the phrase.
* `Codec.request_modelOf` — requests come back when nothing is ambiguous.
* `Settings.keepsRequests_iff` — without warnings requests come back exactly
  when neither separator is the backslash.
-/

namespace QueryPhrase

/-! ## Warnings -/

theorem repeated_eq_nil_iff {names : List Text} :
    repeated names = [] ↔ names.Nodup := by
  induction names with
  | nil => simp [repeated]
  | cons name rest ih =>
      rw [repeated, List.nodup_cons, ← ih]
      by_cases hMem : name ∈ rest
      · simp [hMem]
      · simp [hMem]

/-- No warning about the flat form: the separators differ, and so do the names.
-/
theorem Settings.codecWarnings_eq_nil_iff {codec : Codec} :
    codecWarnings codec = [] ↔
      codec.fieldSeparator ≠ codec.termDelimiter ∧ codec.NamesDistinct := by
  rw [codecWarnings, List.append_eq_nil_iff, List.map_eq_nil_iff,
    repeated_eq_nil_iff]
  refine and_congr_left' ?_
  by_cases hSame : codec.fieldSeparator = codec.termDelimiter
  · simp [hSame]
  · simp [hSame]

theorem Settings.codecWarnings_of_warnings {settings : Settings}
    (h : settings.warnings = []) : codecWarnings settings.codec = [] := by
  rw [warnings, List.append_eq_nil_iff, List.append_eq_nil_iff] at h
  exact h.1.2

/-! ## The model of a command line -/

namespace CommandLine

open Term TermList

variable (settings : Settings) (arguments : TermsArguments)

/-- The filters are built from the terms of the phrase. -/
theorem modelOf_filters_reached :
    (modelOf settings arguments).filters.kind = .filter ∧
      Reached BareSeparators (modelOf settings arguments).filters := by
  have hChosen : Reached BareSeparators settings.model.filters :=
    .edit (.withMatcher settings.matcher)
      (.edit (.withSeparator settings.separator) (.empty .filter) trivial)
      trivial
  constructor
  · show (settings.model.filters.insertAll _).kind = .filter
    rw [kind_insertAll]
    show (((TermList.empty .filter).withSeparator _).withMatcher _).kind = _
    rw [kind_withMatcher, kind_withSeparator]
    rfl
  · exact hChosen.insertAll fun term hTerm _ =>
      bare_ofPhrase arguments.phrase term hTerm

/-- The filters are the terms of the phrase, normalized. -/
theorem filters_modelOf_eq_normalized :
    withoutIds (modelOf settings arguments).filters.terms =
      normalized settings.model.filters.separator
        (Term.ofPhrase arguments.phrase) := by
  have hEmpty : settings.model.filters.kind = .filter ∧
      settings.model.filters.terms = [] ∧
        settings.model.filters.cursor = none := by
    simp only [Settings.model, withMatcher, withSeparator]
    split <;> split <;> exact ⟨rfl, rfl, rfl⟩
  exact withoutIds_insertAll hEmpty.1 hEmpty.2.1 hEmpty.2.2

/-- The sorters are built from the columns and directions. -/
theorem modelOf_sorters_reached :
    Reached BareSeparators (modelOf settings arguments).sorters := by
  refine (Reached.empty .sorter).insertAll ?_
  intro term hTerm other hKind
  obtain ⟨sorter, _, hSame⟩ := List.mem_map.mp hTerm
  rw [← hSame] at hKind
  cases hKind

theorem settled_modelOf : (modelOf settings arguments).request.Settled := by
  obtain ⟨hKind, hFilters⟩ := modelOf_filters_reached settings arguments
  have hShaped := hFilters.wellFormed.shaped
  rw [hKind] at hShaped
  exact Model.settled_request hShaped hFilters.plain
    (modelOf_sorters_reached settings arguments).plain

/-- The sorters of the request are those asked for, in their order. -/
theorem sorters_modelOf (h : ∀ sorter ∈ arguments.sorters, sorter.1 ≠ []) :
    (modelOf settings arguments).request.sorters =
      arguments.sorters.map fun sorter => ofSorter sorter.1 sorter.2 := by
  refine Model.sorters_insertAll ?_
  intro term hTerm
  obtain ⟨sorter, hMem, hSame⟩ := List.mem_map.mp hTerm
  rw [← hSame]
  refine ⟨rfl, rfl, ⟨?_, ?_⟩, fun _ => rfl⟩
  · exact fun hEmpty => h sorter hMem (Option.some.inj hEmpty)
  · intro hSeparator
    cases hSeparator

end CommandLine

/-! ## Through the query string -/

namespace Codec

open Term TermList

variable {codec : Codec}

/-- **A request of a command line comes back** when nothing is ambiguous. -/
theorem request_modelOf (h : codec.Unambiguous) (settings : Settings)
    (arguments : CommandLine.TermsArguments) :
    (codec.decodeQuery (codec.encodeQuery
      (CommandLine.modelOf settings arguments).request)).request =
        (CommandLine.modelOf settings arguments).request := by
  have hSettled := CommandLine.settled_modelOf settings arguments
  rw [decodeQuery_encode, request_decode_encode_settled h hSettled]
  rfl

/-- What is read as a sorter is one that stands in a request. -/
theorem settled_decodeTerms (value : Text) :
    ∀ term ∈ codec.decodeTerms .sorter value,
      term.kind = .sorter ∧ term.Settled := by
  intro term hTerm
  obtain ⟨entry, _, hEntry⟩ := List.mem_filterMap.mp hTerm
  unfold decodeTerm? at hEntry
  split at hEntry
  · next hKind _ => cases hKind
  · next hKind _ => cases hKind
  · next column direction _ _ =>
      rw [Option.some.injEq] at hEntry
      rw [← hEntry]
      refine ⟨rfl, rfl, ⟨?_, ?_⟩, fun _ => rfl⟩
      · show columnOf? column ≠ some []
        unfold columnOf?
        split
        · simp
        · simpa
      · intro hSeparator
        cases hSeparator
  · cases hEntry

/-- At most one sorter is read when a separator is the escape. -/
theorem length_decodeTerms_le
    (h : codec.fieldSeparator = '\\' ∨ codec.termDelimiter = '\\')
    (value : Text) : (codec.decodeTerms .sorter value).length ≤ 1 := by
  rcases h with hField | hTerm
  · have hNone : ∀ entry, codec.decodeTerm? .sorter entry = none := by
      intro entry
      unfold decodeTerm?
      rw [hField, splitUnescaped_backslash]
      rfl
    have hNil : codec.decodeTerms .sorter value = [] := by
      rw [decodeTerms, List.filterMap_eq_nil_iff]
      exact fun entry _ => hNone entry
    rw [hNil]
    exact Nat.zero_le 1
  · rw [decodeTerms, hTerm, splitUnescaped_backslash]
    calc ((([value] : List Text).filter (!·.isEmpty)).filterMap
          (codec.decodeTerm? .sorter)).length
        ≤ (([value] : List Text).filter (!·.isEmpty)).length :=
          List.length_filterMap_le _ _
      _ ≤ ([value] : List Text).length := List.length_filter_le _ _
      _ = 1 := rfl

/-- So at most one sorter of a request comes back. -/
theorem length_sorters_le (hNames : codec.NamesDistinct)
    (h : codec.fieldSeparator = '\\' ∨ codec.termDelimiter = '\\')
    (request : Request) :
    (codec.decodeQuery (codec.encodeQuery request)).request.sorters.length ≤
      1 := by
  have hSorters :
      (codec.decodeQuery (codec.encodeQuery request)).request.sorters =
        codec.decodeTerms .sorter (codec.encodeTerms request.sorters) := by
    rw [decodeQuery_encode, decode_encode_values hNames]
    exact Model.sorters_insertAll (settled_decodeTerms _)
  rw [hSorters]
  exact length_decodeTerms_le h _

end Codec

/-! ## The whole -/

namespace Settings

/-- Every request of a command line, with columns and directions that are not
empty, comes back from the query string that is written for it. -/
def KeepsRequests (settings : Settings) : Prop :=
  ∀ arguments : CommandLine.TermsArguments,
    (∀ sorter ∈ arguments.sorters, sorter.1 ≠ [] ∧ sorter.2 ≠ []) →
      (settings.codec.decodeQuery (settings.codec.encodeQuery
        (CommandLine.modelOf settings arguments).request)).request =
          (CommandLine.modelOf settings arguments).request

/-- **Settings without warnings keep every request** exactly when neither
separator is the backslash. -/
theorem keepsRequests_iff {settings : Settings} (h : settings.warnings = []) :
    settings.KeepsRequests ↔
      settings.codec.fieldSeparator ≠ '\\' ∧
        settings.codec.termDelimiter ≠ '\\' := by
  obtain ⟨hDiffer, hNames⟩ :=
    codecWarnings_eq_nil_iff.mp (codecWarnings_of_warnings h)
  constructor
  · intro hKeeps
    by_contra hEscape
    rw [not_and_or, ne_eq, ne_eq, not_not, not_not] at hEscape
    let arguments : CommandLine.TermsArguments :=
      { sorters := [("name", "asc"), ("size", "asc")] }
    have hSorters : ∀ sorter ∈ arguments.sorters,
        sorter.1 ≠ [] ∧ sorter.2 ≠ [] := by decide
    have hTwo := CommandLine.sorters_modelOf settings arguments
      fun sorter hMem => (hSorters sorter hMem).1
    have hOne := Codec.length_sorters_le hNames hEscape
      (CommandLine.modelOf settings arguments).request
    rw [hKeeps arguments hSorters, hTwo] at hOne
    exact absurd hOne (by decide)
  · rintro ⟨hField, hTerm⟩ arguments _
    exact Codec.request_modelOf ⟨hDiffer, hField, hTerm, hNames⟩ settings
      arguments

/-- A letter of a keyword and an ampersand are no obstacle. -/
theorem keepsRequests_of_letter :
    let settings : Settings :=
      { codec := { fieldSeparator := 'i', termDelimiter := '&' } }
    settings.warnings = [] ∧ settings.KeepsRequests := by
  intro settings
  have hWarnings : settings.warnings = [] := by decide
  exact ⟨hWarnings, (keepsRequests_iff hWarnings).mpr ⟨by decide, by decide⟩⟩

/-- With the backslash between fields there is no warning, and the only filter
is lost. -/
theorem not_keepsRequests_of_backslash :
    let settings : Settings := { codec := { fieldSeparator := '\\' } }
    let request :=
      (CommandLine.modelOf settings { phrase := "a = b" }).request
    let query : Text := "query=a%5C%3D%5Cb&offset=0&limit=25"
    settings.warnings = [] ∧
      request.filters = [⟨none, some "a", .equal, some "b"⟩] ∧
      settings.codec.encodeQuery request = query ∧
      (settings.codec.decodeQuery query).request.filters = [] ∧
      ¬ settings.KeepsRequests := by
  intro settings request query
  have hFilters : request.filters = [⟨none, some "a", .equal, some "b"⟩] := by
    decide
  have hQuery : settings.codec.encodeQuery request = query := by decide
  have hLost : (settings.codec.decodeQuery query).request.filters = [] := by
    rw [← hQuery, Codec.decodeQuery_encode]
    decide
  refine ⟨by decide, hFilters, hQuery, hLost, fun hKeeps => ?_⟩
  have hSame := hKeeps { phrase := "a = b" } (List.forall_mem_nil _)
  have hSameFilters := congrArg Request.filters hSame
  change (settings.codec.decodeQuery
    (settings.codec.encodeQuery request)).request.filters =
      request.filters at hSameFilters
  rw [hQuery, hLost, hFilters] at hSameFilters
  cases hSameFilters

end Settings

end QueryPhrase
