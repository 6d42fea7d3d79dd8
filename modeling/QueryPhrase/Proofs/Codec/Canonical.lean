import QueryPhrase.Proofs.Codec.Pairs
import QueryPhrase.Proofs.Text.Split

/-!
# The normal form of flat parameters

Of the counts the last value stands. The values of a list are read one after the
other, so they may as well be one value, joined with the delimiter: what is held
of a list between two values is held between two entries of the one value too. A
value that ends in a bare backslash would escape the delimiter behind it, and a
delimiter that is a backslash cuts nothing; nothing else stands in the way.

## Main definitions

* `Codec.canonical` — the normal form of some pairs.
* `Codec.Interleaved` — the same pairs, interleaved in another way.

## Main results

* `Codec.decodeTerms_joined` — the terms of values joined into one.
* `Codec.decode_eq_canonical` — the normal form is decoded to the same model, and
  so is every other way to interleave the pairs.
-/

namespace QueryPhrase.Codec

open Parameters TermList

variable {codec : Codec}

/-! ## The normal form -/

/-- The values of a list as one value; none of none. -/
def joinedValues (codec : Codec) (values : List Text) : List Text :=
  if values = [] then [] else [Text.joined [codec.termDelimiter] values]

/-- **The normal form of some pairs**: one pair for each of the two lists, the
last one of each count, and all other pairs in their order. A name without a value
is left out. -/
def canonical (codec : Codec) (pairs : Parameters) : Parameters :=
  codec.arranged (codec.joinedValues (getAll pairs codec.filters))
    (codec.joinedValues (getAll pairs codec.sorters))
    (getAll pairs codec.offset).getLast?.toList
    (getAll pairs codec.limit).getLast?.toList
    (codec.freePairs pairs)

private theorem getLast?_toList {α : Type} (a : Option α) :
    a.toList.getLast? = a := by
  cases a <;> rfl

/-! ## Values of a list -/

/-- The terms of values joined into one are the terms of each. -/
theorem decodeTerms_joined (hDelimiter : codec.termDelimiter ≠ '\\')
    (kind : ListKind) {values : List Text} (hSome : values ≠ [])
    (hEnds : ∀ value ∈ values, endsUnescaped value = true) :
    codec.decodeTerms kind (Text.joined [codec.termDelimiter] values) =
      values.flatMap (codec.decodeTerms kind) := by
  induction values with
  | nil => exact absurd rfl hSome
  | cons value rest ih =>
      rw [List.forall_mem_cons] at hEnds
      obtain ⟨hEnd, hRest⟩ := hEnds
      cases rest with
      | nil =>
          rw [Text.joined_singleton, List.flatMap_singleton]
      | cons next others =>
          rw [Text.joined_cons_cons, List.singleton_append, decodeTerms,
            splitUnescaped_append hDelimiter hEnd, List.filter_append,
            List.filterMap_append, List.flatMap_cons,
            ← ih (List.cons_ne_nil _ _) hRest]
          rfl

theorem flatMap_joinedValues (hDelimiter : codec.termDelimiter ≠ '\\')
    (kind : ListKind) {values : List Text}
    (hEnds : ∀ value ∈ values, endsUnescaped value = true) :
    (codec.joinedValues values).flatMap (codec.decodeTerms kind) =
      values.flatMap (codec.decodeTerms kind) := by
  unfold joinedValues
  split
  · next hNone => rw [hNone]
  · next hSome =>
    rw [List.flatMap_singleton, decodeTerms_joined hDelimiter kind hSome hEnds]

/-! ## The same pairs in another order -/

/-- Two lists of pairs that differ only in how pairs of different names are
interleaved: those of each of the four names come in the same order, and so do
the others. -/
structure Interleaved (codec : Codec) (pairs others : Parameters) : Prop where
  values : ∀ name, codec.reserves name = true →
    getAll others name = getAll pairs name
  free : codec.freePairs others = codec.freePairs pairs

/-- Two neighbours with different names change places, one of them with a name of
the codec's. -/
theorem Interleaved.swap (before after : Parameters) {a b : Text × Text}
    (hNames : a.1 ≠ b.1)
    (hReserved : codec.reserves a.1 = true ∨ codec.reserves b.1 = true) :
    codec.Interleaved (before ++ a :: b :: after)
      (before ++ b :: a :: after) := by
  refine ⟨fun name _ => ?_, ?_⟩
  · by_cases hA : a.1 = name
    · have hB : b.1 ≠ name := fun hB => hNames (hA.trans hB.symm)
      simp [getAll, hA, hB]
    · simp [getAll, hA, List.filter_cons]
  · rcases hReserved with hA | hB
    · simp [freePairs, hA, List.filter_cons]
    · simp [freePairs, hB, List.filter_cons]

theorem Interleaved.decode_eq (h : codec.NamesDistinct)
    {pairs others : Parameters} (hSame : codec.Interleaved pairs others) :
    codec.decode others = codec.decode pairs := by
  have hValues := hSame.values
  rw [decode_eq_gathered h, decode_eq_gathered h, hValues _ reserves_filters,
    hValues _ reserves_sorters, hValues _ reserves_offset,
    hValues _ reserves_limit, hSame.free]

/-- **Decoding has a normal form.** With names that are distinct and a delimiter
that is no backslash, pairs in which no value of a list ends in a bare backslash
are decoded as their normal form is, and so are the same pairs interleaved in any
other way. -/
theorem decode_eq_canonical (hNames : codec.NamesDistinct)
    (hDelimiter : codec.termDelimiter ≠ '\\') {pairs : Parameters}
    (hEnds : ∀ pair ∈ pairs, pair.1 = codec.filters ∨ pair.1 = codec.sorters →
      endsUnescaped pair.2 = true) :
    codec.decode pairs = codec.decode (codec.canonical pairs) ∧
      ∀ others, codec.Interleaved pairs others →
        codec.decode others = codec.decode (codec.canonical pairs) := by
  have hValues : ∀ name, name = codec.filters ∨ name = codec.sorters →
      ∀ value ∈ getAll pairs name, endsUnescaped value = true := by
    intro name hName value hValue
    obtain ⟨pair, hPair, rfl⟩ := List.mem_map.mp hValue
    rw [List.mem_filter, beq_iff_eq] at hPair
    exact hEnds pair hPair.1 (by rwa [hPair.2])
  have hSame : codec.decode pairs = codec.decode (codec.canonical pairs) := by
    rw [decode_eq_gathered hNames, canonical,
      decode_arranged hNames reserves_freePairs, gathered, gathered,
      flatMap_joinedValues hDelimiter .filter (hValues _ (Or.inl rfl)),
      flatMap_joinedValues hDelimiter .sorter (hValues _ (Or.inr rfl))]
    simp only [getLast?_toList]
  exact ⟨hSame, fun others hOthers => (hOthers.decode_eq hNames).trans hSame⟩

/-- The `or` that ends the first value joins the matcher of the second one. -/
theorem decode_eq_canonical_of_repeated :
    let codec : Codec := {}
    let pairs : Parameters :=
      [("query", "a:=:1,or"), ("x", "y"), ("limit", "7"), ("query", "b:=:2"),
        ("sort", "a:asc"), ("limit", "many")]
    codec.NamesDistinct ∧
      codec.canonical pairs =
        ([("query", "a:=:1,or,b:=:2"), ("sort", "a:asc"), ("limit", "many"),
          ("x", "y")] : Parameters) ∧
      (codec.decode pairs).filters.phrase = "a = 1 or b = 2" ∧
      codec.decode pairs = codec.decode (codec.canonical pairs) ∧
      ∀ others, codec.Interleaved pairs others →
        codec.decode others = codec.decode (codec.canonical pairs) := by
  intro codec pairs
  have hNames : codec.NamesDistinct := by decide
  have hEnds : ∀ pair ∈ pairs, pair.1 = codec.filters ∨ pair.1 = codec.sorters →
      endsUnescaped pair.2 = true := by decide
  exact ⟨hNames, by decide, by decide,
    decode_eq_canonical hNames (by decide) hEnds⟩

end QueryPhrase.Codec
