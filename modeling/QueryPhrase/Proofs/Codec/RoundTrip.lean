import QueryPhrase.Proofs.Codec.Pairs
import QueryPhrase.Proofs.Codec.Terms
import QueryPhrase.Proofs.TermList.Plain
import QueryPhrase.Proofs.Text.Count

/-!
# A request through the flat form

Decoding takes the pairs in the order in which encoding wrote them, and each
pair goes where its name says: the filters and the sorters into lists that are
built in order, the counts into their places, and every other pair into the
parameters. What is committed of the lists that were built is what was encoded.

## Main definitions

* `Codec.filterTerms` — the filter terms of any pairs, in their order.
* `Codec.valuesOf` — the values that a list of terms is written as.

## Main results

* `Codec.filters_decode_eq_normalized` — what comes of the filters of any pairs.
* `Codec.decode_encode_values` — the model that is decoded, from what is read of
  the values of the two lists.
* `Codec.decode_encode` — the model that is decoded, part by part.
* `Codec.request_decode_encode` — its request is the one that was encoded,
  without the parameters whose names the codec needs for itself.
-/

namespace QueryPhrase.Codec

open Term TermList

variable {codec : Codec}

/-! ## Any pairs -/

/-- The terms that are read of every value with the name of the filters, one
value after the other. -/
def filterTerms (codec : Codec) (pairs : List (Text × Text)) : List Term :=
  (pairs.filter fun pair => pair.1 = codec.filters).flatMap fun pair =>
    codec.decodeTerms .filter pair.2

/-- A pair with another name leaves the filters alone. -/
theorem filters_decodePair_of_ne (model : Model) {pair : Text × Text}
    (hName : pair.1 ≠ codec.filters) :
    (codec.decodePair model pair).filters = model.filters := by
  simp only [decodePair, hName, if_false]
  split
  · rfl
  · split
    · rfl
    · split <;> rfl

theorem filters_foldl {pairs : List (Text × Text)} :
    ∀ model : Model, (pairs.foldl codec.decodePair model).filters =
      model.filters.insertAll (codec.filterTerms pairs) := by
  induction pairs with
  | nil => exact fun _ => rfl
  | cons pair rest ih =>
      intro model
      by_cases hName : pair.1 = codec.filters
      · have hTerms : codec.filterTerms (pair :: rest) =
            codec.decodeTerms .filter pair.2 ++ codec.filterTerms rest := by
          simp [filterTerms, hName]
        have hPair : codec.decodePair model (codec.filters, pair.2) = _ :=
          decodePair_filters model pair.2
        rw [← hName] at hPair
        rw [List.foldl_cons, ih, hPair, hTerms, insertAll, insertAll, insertAll,
          List.foldl_append]
      · have hTerms : codec.filterTerms (pair :: rest) =
            codec.filterTerms rest := by
          simp [filterTerms, hName]
        rw [List.foldl_cons, ih, filters_decodePair_of_ne model hName, hTerms]

/-- **The filters that are decoded** are the terms of their values, normalized,
whatever pairs there are and in whatever order. -/
theorem filters_decode_eq_normalized (pairs : List (Text × Text)) :
    withoutIds (codec.decode pairs).filters.terms =
      normalized .and (codec.filterTerms pairs) := by
  rw [decode, filters_foldl]
  exact withoutIds_insertAll rfl rfl rfl

/-! ## The whole -/

/-- The values that a list of terms is written as: none for an empty one. -/
def valuesOf (codec : Codec) (terms : List Term) : List Text :=
  if terms.isEmpty then [] else [codec.encodeTerms terms]

/-- Encoding sorts its pairs by name. -/
theorem encode_eq_arranged (request : Request) :
    codec.encode request =
      codec.arranged (codec.valuesOf request.filters)
        (codec.valuesOf request.sorters) [countText request.offset]
        (request.limit.map countText).toList
        (codec.freePairs request.parameters) := by
  have hList : ∀ name terms, codec.encodeList name terms =
      Parameters.named name (codec.valuesOf terms) := by
    intro name terms
    unfold encodeList valuesOf
    split <;> rfl
  have hLimit : (request.limit.map fun limit =>
      (codec.limit, countText limit)).toList =
        Parameters.named codec.limit (request.limit.map countText).toList := by
    cases request.limit <;> rfl
  rw [encode, hList, hList, hLimit]
  rfl

/-- The model that is decoded when the names are distinct, whatever the
separators are: the counts as they were, what is read from the two values, and
the parameters with names of their own. -/
theorem decode_encode_values (h : codec.NamesDistinct) (request : Request) :
    codec.decode (codec.encode request) =
      { offset := request.offset
        limit := request.limit
        filters := (TermList.empty .filter).insertAll
          (codec.decodeTerms .filter (codec.encodeTerms request.filters))
        sorters := (TermList.empty .sorter).insertAll
          (codec.decodeTerms .sorter (codec.encodeTerms request.sorters))
        parameters := request.parameters.filter fun pair =>
          !codec.reserves pair.1 } := by
  have hTerms : ∀ kind terms, (codec.valuesOf terms).flatMap
      (codec.decodeTerms kind) =
        codec.decodeTerms kind (codec.encodeTerms terms) := by
    intro kind terms
    cases terms with
    | nil => rfl
    | cons term rest => exact List.flatMap_singleton _ _
  have hLimit : (request.limit.map countText).toList.getLast?.bind count? =
      request.limit := by
    cases request.limit with
    | none => rfl
    | some count => exact count?_countText count
  rw [encode_eq_arranged, decode_arranged h reserves_freePairs, gathered, hTerms,
    hTerms, hLimit, List.getLast?_singleton, Option.bind_some, count?_countText,
    Option.getD_some]
  rfl

/-- **The model that is decoded**: the counts as they were, the lists built in
order, and the parameters with names of their own. -/
theorem decode_encode (h : codec.Unambiguous) {request : Request}
    (hSettled : request.Settled) :
    codec.decode (codec.encode request) =
      { offset := request.offset
        limit := request.limit
        filters := (TermList.empty .filter).insertAll request.filters
        sorters := (TermList.empty .sorter).insertAll request.sorters
        parameters := request.parameters.filter fun pair =>
          !codec.reserves pair.1 } := by
  have hFilters : ∀ term ∈ request.filters,
      ListKind.accepts .filter term.kind = true := by
    intro term hMem
    rcases hSettled.filters_shaped with hNil | hAlternates
    · rw [hNil] at hMem
      cases hMem
    · obtain ⟨before, after, hCut⟩ := List.append_of_mem hMem
      rw [hCut] at hAlternates
      rcases hAlternates.kind_cases with hMatcher | hSeparator
      · rw [hMatcher]
        rfl
      · rw [hSeparator]
        rfl
  have hSorters : ∀ term ∈ request.sorters,
      ListKind.accepts .sorter term.kind = true := by
    intro term hMem
    rw [(hSettled.sorters term hMem).1]
    rfl
  rw [decode_encode_values h.names_nodup,
    decodeTerms_encodeTerms h hFilters hSettled.filters,
    decodeTerms_encodeTerms h hSorters
      fun term hMem => (hSettled.sorters term hMem).2]

/-- A settled request comes back, without the parameters that the codec needs
the names of. -/
theorem request_decode_encode_settled (h : codec.Unambiguous)
    {request : Request}
    (hSettled : request.Settled) :
    (codec.decode (codec.encode request)).request =
      { request with
        parameters := request.parameters.filter fun pair =>
          !codec.reserves pair.1 } := by
  have hFilters : Model.committed
      ((TermList.empty .filter).insertAll request.filters).terms =
        request.filters :=
    Model.committed_of_settled
      (withoutIds_insertAll_filter hSettled.filters_shaped
        fun term hMem => (hSettled.filters term hMem).plain)
      hSettled.filters_shaped hSettled.filters
  have hSorters := Model.sorters_insertAll hSettled.sorters
  rw [decode_encode h hSettled]
  simp only [Model.request, hFilters, hSorters]

/-- **A request survives the flat form.** The lists may have been edited in any
way, as long as the separators that were inserted are bare; the parameters whose
names the codec needs for itself are the only thing lost. -/
theorem request_decode_encode (h : codec.Unambiguous) {model : Model}
    (hFilters : model.filters.kind = .filter)
    (hFiltersReached : Reached BareSeparators model.filters)
    (hSortersReached : Reached BareSeparators model.sorters) :
    (codec.decode (codec.encode model.request)).request =
      { model.request with
        parameters := model.request.parameters.filter fun pair =>
          !codec.reserves pair.1 } := by
  have hShaped := hFiltersReached.wellFormed.shaped
  rw [hFilters] at hShaped
  exact request_decode_encode_settled h
    (Model.settled_request hShaped hFiltersReached.plain hSortersReached.plain)

/-- The separator and the delimiter are letters of a keyword here, the column is
missing, and the last separator is only held. -/
theorem request_decode_encode_of_letters :
    let codec : Codec := { fieldSeparator := 'i', termDelimiter := 'k' }
    let list := (Edit.insert (.ofSeparator .or) true).apply
      ((Edit.write "milk, eggs").apply (.empty .filter))
    let model : Model := { Model.empty with
      filters := list
      limit := some 20
      parameters := [("query", "lost"), ("page", "kept")] }
    codec.Unambiguous ∧ Reached BareSeparators list ∧
      (codec.decode (codec.encode model.request)).request =
        { model.request with
          parameters := model.request.parameters.filter fun pair =>
            !codec.reserves pair.1 } := by
  intro codec list model
  have hCodec : codec.Unambiguous :=
    ⟨by decide, by decide, by decide, by decide⟩
  have hReached : Reached BareSeparators list :=
    .edit _ (.edit _ (.empty .filter) trivial) (fun _ => ⟨rfl, rfl⟩)
  exact ⟨hCodec, hReached,
    request_decode_encode hCodec rfl hReached (.empty .sorter)⟩

end QueryPhrase.Codec
