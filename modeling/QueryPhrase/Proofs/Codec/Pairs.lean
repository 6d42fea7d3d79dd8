import Mathlib.Data.List.Induction
import QueryPhrase.Codec
import QueryPhrase.Proofs.Parameters

/-!
# Pairs by name

Pairs come in any order and number. What is decoded of them depends on the values
of each of the four names and on the other pairs, each in their order, and on
nothing else: not on how pairs of different names are interleaved. So the pairs
may be sorted by name first.

## Main definitions

* `Codec.NamesDistinct` — the codecs whose four names are four.
* `Codec.gathered` — the model of the values of each name.
* `Codec.arranged` — pairs sorted by name.

## Main results

* `Codec.decode_eq_gathered` — what is decoded of any pairs.
* `Codec.decode_arranged` — what is decoded of pairs sorted by name.
-/

namespace QueryPhrase

/-! ## Values of a name -/

namespace Parameters

/-- Pairs of one name with these values. -/
def named (name : Text) (values : List Text) : Parameters :=
  values.map (Prod.mk name)

theorem getAll_named (other name : Text) (values : List Text) :
    getAll (named other values) name = if other = name then values else [] := by
  split
  · next hSame =>
    have hKept : (named other values).filter (·.1 == name) =
        named other values := by
      rw [List.filter_eq_self]
      intro pair hPair
      obtain ⟨value, _, rfl⟩ := List.mem_map.mp hPair
      exact beq_iff_eq.mpr hSame
    rw [getAll, hKept, named, List.map_map]
    exact List.map_id values
  · next hOther =>
    apply getAll_eq_nil
    intro pair hPair
    obtain ⟨value, _, rfl⟩ := List.mem_map.mp hPair
    exact hOther

end Parameters

namespace Codec

open Parameters TermList

variable {codec : Codec}

/-! ## One pair at a time -/

/-- A codec whose names are four. -/
abbrev NamesDistinct (codec : Codec) : Prop :=
  [codec.filters, codec.sorters, codec.offset, codec.limit].Nodup

/-- No name is one that is looked at before it. -/
theorem NamesDistinct.apart (h : codec.NamesDistinct) :
    codec.sorters ≠ codec.filters ∧ codec.offset ≠ codec.filters ∧
      codec.offset ≠ codec.sorters ∧ codec.limit ≠ codec.filters ∧
      codec.limit ≠ codec.sorters ∧ codec.limit ≠ codec.offset := by
  simp only [NamesDistinct, List.nodup_cons, List.mem_cons, not_or,
    List.not_mem_nil, or_false] at h
  obtain ⟨⟨hFS, hFO, hFL⟩, ⟨hSO, hSL⟩, hOL, _⟩ := h
  exact ⟨Ne.symm hFS, Ne.symm hFO, Ne.symm hSO, Ne.symm hFL, Ne.symm hSL,
    Ne.symm hOL⟩

section Pairs

variable (model : Model)

theorem decodePair_filters (value : Text) :
    codec.decodePair model (codec.filters, value) =
      { model with
        filters :=
          model.filters.insertAll (codec.decodeTerms .filter value) } := by
  simp [decodePair]

theorem decodePair_sorters (h : codec.NamesDistinct) (value : Text) :
    codec.decodePair model (codec.sorters, value) =
      { model with
        sorters :=
          model.sorters.insertAll (codec.decodeTerms .sorter value) } := by
  obtain ⟨hSF, _⟩ := h.apart
  simp [decodePair, hSF]

theorem decodePair_offset (h : codec.NamesDistinct) (value : Text) :
    codec.decodePair model (codec.offset, value) =
      { model with offset := (count? value).getD 0 } := by
  obtain ⟨_, hOF, hOS, _⟩ := h.apart
  simp [decodePair, hOF, hOS]

theorem decodePair_limit (h : codec.NamesDistinct) (value : Text) :
    codec.decodePair model (codec.limit, value) =
      { model with limit := count? value } := by
  obtain ⟨_, _, _, hLF, hLS, hLO⟩ := h.apart
  simp [decodePair, hLF, hLS, hLO]

theorem decodePair_parameter {key : Text} (hKey : codec.reserves key = false)
    (value : Text) :
    codec.decodePair model (key, value) =
      { model with parameters := model.parameters ++ [(key, value)] } := by
  simp only [reserves, List.contains_eq_mem, List.mem_cons, List.not_mem_nil,
    or_false, decide_eq_false_iff_not, not_or] at hKey
  simp [decodePair, hKey, Parameters.append]

end Pairs

/-! ## What is decoded -/

/-- The pairs with names that the codec does not need for itself. -/
def freePairs (codec : Codec) (pairs : Parameters) : Parameters :=
  pairs.filter fun pair => !codec.reserves pair.1

/-- The model of the values of each name and of the other pairs: the last value
of each count, and the terms of every value of each list. -/
def gathered (codec : Codec) (filters sorters offsets limits : List Text)
    (free : Parameters) : Model where
  offset := (offsets.getLast?.bind count?).getD 0
  limit := limits.getLast?.bind count?
  filters := (TermList.empty .filter).insertAll
    (filters.flatMap (codec.decodeTerms .filter))
  sorters := (TermList.empty .sorter).insertAll
    (sorters.flatMap (codec.decodeTerms .sorter))
  parameters := free

theorem reserves_filters : codec.reserves codec.filters = true := by
  simp [reserves]

theorem reserves_sorters : codec.reserves codec.sorters = true := by
  simp [reserves]

theorem reserves_offset : codec.reserves codec.offset = true := by
  simp [reserves]

theorem reserves_limit : codec.reserves codec.limit = true := by
  simp [reserves]

theorem reserves_eq_false_iff {key : Text} : codec.reserves key = false ↔
    key ≠ codec.filters ∧ key ≠ codec.sorters ∧ key ≠ codec.offset ∧
      key ≠ codec.limit := by
  simp [reserves]

theorem freePairs_append (a b : Parameters) :
    codec.freePairs (a ++ b) = codec.freePairs a ++ codec.freePairs b :=
  List.filter_append a b

theorem freePairs_concat (pairs : Parameters) (pair : Text × Text) :
    codec.freePairs (pairs ++ [pair]) =
      codec.freePairs pairs ++ if codec.reserves pair.1 then [] else [pair] := by
  cases hReserved : codec.reserves pair.1 <;> simp [freePairs, hReserved]

/-- **What is decoded of some pairs** comes from the values of each name and from
the other pairs. The induction is from the last pair. -/
theorem decode_eq_gathered (h : codec.NamesDistinct) (pairs : Parameters) :
    codec.decode pairs =
      codec.gathered (getAll pairs codec.filters) (getAll pairs codec.sorters)
        (getAll pairs codec.offset) (getAll pairs codec.limit)
        (codec.freePairs pairs) := by
  induction pairs using List.reverseRecOn with
  | nil => rfl
  | append_singleton rest pair ih =>
      obtain ⟨key, value⟩ := pair
      have hStep : codec.decode (rest ++ [(key, value)]) =
          codec.decodePair (codec.decode rest) (key, value) := by
        rw [decode, decode, List.foldl_append]
        rfl
      obtain ⟨hSF, hOF, hOS, hLF, hLS, hLO⟩ := h.apart
      rw [hStep, ih, freePairs_concat]
      simp only [getAll_concat]
      by_cases hFilters : key = codec.filters
      · subst hFilters
        rw [decodePair_filters]
        simp [gathered, hSF.symm, hOF.symm, hLF.symm, insertAll, reserves]
      by_cases hSorters : key = codec.sorters
      · subst hSorters
        rw [decodePair_sorters _ h]
        simp [gathered, hSF, hOS.symm, hLS.symm, insertAll, reserves]
      by_cases hOffset : key = codec.offset
      · subst hOffset
        rw [decodePair_offset _ h]
        simp [gathered, hOF, hOS, hLO.symm, insertAll, reserves]
      by_cases hLimit : key = codec.limit
      · subst hLimit
        rw [decodePair_limit _ h]
        simp [gathered, hLF, hLS, hLO, insertAll, reserves]
      · have hFree : codec.reserves key = false :=
          reserves_eq_false_iff.mpr ⟨hFilters, hSorters, hOffset, hLimit⟩
        rw [decodePair_parameter _ hFree]
        simp [gathered, hFilters, hSorters, hOffset, hLimit, hFree]

/-! ## Sorted pairs -/

/-- Pairs sorted by name: those of the four names with these values, and then
pairs of other names. -/
def arranged (codec : Codec) (filters sorters offsets limits : List Text)
    (free : Parameters) : Parameters :=
  named codec.filters filters ++ named codec.sorters sorters ++
    named codec.offset offsets ++ named codec.limit limits ++ free

theorem reserves_freePairs {pairs : Parameters} :
    ∀ pair ∈ codec.freePairs pairs, codec.reserves pair.1 = false := by
  intro pair hPair
  simpa using (List.mem_filter.mp hPair).2

/-- Sorted pairs are taken apart again. -/
theorem decode_arranged (hNames : codec.NamesDistinct)
    {filters sorters offsets limits : List Text} {free : Parameters}
    (hFree : ∀ pair ∈ free, codec.reserves pair.1 = false) :
    codec.decode (codec.arranged filters sorters offsets limits free) =
      codec.gathered filters sorters offsets limits free := by
  have hValues : ∀ name, codec.reserves name = true →
      getAll (codec.arranged filters sorters offsets limits free) name =
        (if codec.filters = name then filters else []) ++
          (if codec.sorters = name then sorters else []) ++
          (if codec.offset = name then offsets else []) ++
          if codec.limit = name then limits else [] := by
    intro name hName
    have hNone : getAll free name = [] := by
      apply getAll_eq_nil
      rintro pair hPair rfl
      rw [hFree pair hPair] at hName
      cases hName
    simp only [arranged, getAll_append, getAll_named, hNone, List.append_nil]
  have hFreePairs :
      codec.freePairs (codec.arranged filters sorters offsets limits free) =
        free := by
    have hDropped : ∀ name values, codec.reserves name = true →
        codec.freePairs (named name values) = [] := by
      intro name values hName
      rw [freePairs, List.filter_eq_nil_iff]
      intro pair hPair
      obtain ⟨value, _, rfl⟩ := List.mem_map.mp hPair
      simp [hName]
    have hKept : codec.freePairs free = free := by
      rw [freePairs, List.filter_eq_self]
      intro pair hPair
      rw [hFree pair hPair]
      rfl
    simp only [arranged, freePairs_append, hDropped _ _ reserves_filters,
      hDropped _ _ reserves_sorters, hDropped _ _ reserves_offset,
      hDropped _ _ reserves_limit, hKept, List.nil_append]
  obtain ⟨hSF, hOF, hOS, hLF, hLS, hLO⟩ := hNames.apart
  rw [decode_eq_gathered hNames, hFreePairs, hValues _ reserves_filters,
    hValues _ reserves_sorters, hValues _ reserves_offset,
    hValues _ reserves_limit]
  simp [hSF, hOF, hOS, hLF, hLS, hLO, hSF.symm, hOF.symm, hOS.symm, hLF.symm,
    hLS.symm, hLO.symm]

end Codec

end QueryPhrase
