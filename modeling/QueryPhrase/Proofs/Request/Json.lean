import Mathlib.Data.List.Forall2
import QueryPhrase.Request.Json

/-!
# Requests read back from JSON

What is absent from a request has no entry in its JSON, and a missing entry is
read as absent. So a request that is written and read again is the same,
whatever is present in it.

The entries of an object have no order to rely on: some writers keep them as
they come and others sort them. Reading looks entries up by name, and no name
stands twice in what is written, so it is the same in every order
(`Json.Reordered.get?`).

## Main definitions

* `Json.names` — the names of the entries of an object.
* `Json.Reordered` — the same value with the entries of objects in another
  order.
* `Json.ReadAs` — what a value is read as, in whatever order its entries are.

## Main results

* `Term.readAs_toJson`, `Request.readAs_toJson` — a term and a request are read
  back from what they are written as.
* `Request.ofJson?_toJson` — so is a request, and what it has no entry for.
-/

namespace QueryPhrase

namespace Json

/-! ## The order of entries -/

/-- The names of the entries of an object, in order. -/
def names : Json → List Text
  | .object entries => entries.map Prod.fst
  | _ => []

/-- The same value, but for the order in which the entries of the objects in it
come: each entry keeps its name, and its value is the same in this sense. -/
inductive Reordered : Json → Json → Prop
  | refl (value : Json) : Reordered value value
  | list {items others : List Json} :
    List.Forall₂ Reordered items others →
      Reordered (.list items) (.list others)
  | object {entries others moved : List (Text × Json)} :
    entries.map Prod.fst = others.map Prod.fst →
      List.Forall₂ Reordered (entries.map Prod.snd) (others.map Prod.snd) →
        others.Perm moved → Reordered (.object entries) (.object moved)

theorem Reordered.eq_null {value : Json} (h : Reordered value .null) :
    value = .null := by
  cases h
  rfl

theorem Reordered.eq_text {value : Text} {json : Json}
    (h : Reordered (.text value) json) : json = .text value := by
  cases h
  rfl

/-- What is found under a name is the same but for the order inside of it. -/
theorem get?_of_values {entries others : List (Text × Json)}
    (hNames : entries.map Prod.fst = others.map Prod.fst)
    (hValues : List.Forall₂ Reordered (entries.map Prod.snd)
      (others.map Prod.snd)) (name : Text) :
    Option.Rel Reordered (get? entries name) (get? others name) := by
  induction entries generalizing others with
  | nil =>
      rw [List.map_nil, eq_comm, List.map_eq_nil_iff] at hNames
      rw [hNames]
      exact .none
  | cons entry rest ih =>
      obtain ⟨key, value⟩ := entry
      cases others with
      | nil => cases hNames
      | cons other more =>
          obtain ⟨key', value'⟩ := other
          rw [List.map_cons, List.map_cons, List.cons.injEq] at hNames
          rw [List.map_cons, List.map_cons, List.forall₂_cons] at hValues
          have hRest := ih hNames.2 hValues.2
          have hKey : key = key' := hNames.1
          simp only [get?, List.lookup_cons, hKey] at hRest ⊢
          cases name == key' with
          | true => exact .some hValues.1
          | false => exact hRest

/-- Where no name stands twice, the order of the entries does not matter to what
is found under a name. -/
theorem get?_of_perm {entries moved : List (Text × Json)}
    (hPerm : entries.Perm moved) (hOnce : (entries.map Prod.fst).Nodup)
    (name : Text) : get? entries name = get? moved name := by
  induction hPerm with
  | nil => rfl
  | cons entry _ ih =>
      obtain ⟨key, value⟩ := entry
      rw [List.map_cons, List.nodup_cons] at hOnce
      simp only [get?, List.lookup_cons] at ih ⊢
      rw [ih hOnce.2]
  | swap first second rest =>
      obtain ⟨key, value⟩ := first
      obtain ⟨key', value'⟩ := second
      rw [List.map_cons, List.map_cons, List.nodup_cons, List.mem_cons,
        not_or] at hOnce
      simp only [get?, List.lookup_cons]
      cases hKey : name == key with
      | false => rfl
      | true =>
          have hOther : (name == key') = false := by
            rw [beq_iff_eq] at hKey
            rw [hKey, beq_eq_false_iff_ne]
            exact Ne.symm hOnce.1.1
          rw [hOther]
  | trans hFirst _ ihFirst ihSecond =>
      have hNext := (hFirst.map Prod.fst).nodup_iff.mp hOnce
      exact (ihFirst hOnce).trans (ihSecond hNext)

/-- **Entries are found by name**, in whatever order they are. -/
theorem Reordered.get? {entries : List (Text × Json)} {json : Json}
    (h : Reordered (.object entries) json)
    (hOnce : (entries.map Prod.fst).Nodup) :
    ∃ moved, json = .object moved ∧ ∀ name,
      Option.Rel Reordered (get? entries name) (get? moved name) := by
  cases h with
  | refl =>
      refine ⟨entries, rfl, fun name => ?_⟩
      cases Json.get? entries name with
      | none => exact .none
      | some value => exact .some (.refl value)
  | @object _ others moved hNames hValues hPerm =>
      refine ⟨moved, rfl, fun name => ?_⟩
      rw [hNames] at hOnce
      rw [← get?_of_perm hPerm hOnce]
      exact get?_of_values hNames hValues name

/-! ## Reading what was written -/

/-- A value is read as `result`, in whatever order the entries in it are. -/
def ReadAs {α : Type} (read : Json → Option α) (value : Json) (result : α) :
    Prop :=
  ∀ json, Reordered value json → read json = some result

section ReadAs

variable {α : Type} {read : Json → Option α} {encode : α → Json}

theorem readAs_word (n : UInt64) : ReadAs word? (.word n) n := by
  intro json h
  cases h
  have hSize : n.toNat < UInt64.size := n.toNat_lt_size
  simp [word, nat, word?, hSize]

theorem readAs_text (value : Text) : ReadAs text? (.text value) value := by
  intro json h
  rw [h.eq_text, text?]

theorem readAs_pair (value : Text × Text) :
    ReadAs pair? (pair value) value := by
  intro json h
  cases h with
  | refl => rfl
  | list hItems =>
      simp only [List.map_cons, List.map_nil] at hItems
      obtain ⟨first, rest, hFirst, hRest, rfl⟩ :=
        List.forall₂_cons_left_iff.mp hItems
      obtain ⟨second, more, hSecond, hMore, rfl⟩ :=
        List.forall₂_cons_left_iff.mp hRest
      cases hMore
      rw [hFirst.eq_text, hSecond.eq_text, pair?]

/-- A list is read item by item. -/
theorem readAs_list (hRead : ∀ a, ReadAs read (encode a) a) (values : List α) :
    ReadAs (list? read) (.list (values.map encode)) values := by
  have hItems : ∀ {values : List α} {others : List Json},
      List.Forall₂ Reordered (values.map encode) others →
        others.mapM read = some values := by
    intro values
    induction values with
    | nil =>
        intro others h
        cases h
        rfl
    | cons value rest ih =>
        intro others h
        obtain ⟨first, others, hFirst, hRest, rfl⟩ :=
          List.forall₂_cons_left_iff.mp h
        simp [List.mapM_cons, hRead value first hFirst, ih hRest]
  intro json h
  cases h with
  | refl => exact hItems (List.forall₂_same.mpr fun item _ => .refl item)
  | list h => exact hItems h

/-- A value that is always written is read from its entry, whether one could do
without it or not. -/
theorem readAs_present {value : Json} {result : α} {found : Option Json}
    (hRead : ReadAs read value result)
    (h : Option.Rel Reordered (some value) found) :
    found.bind read = some result ∧
      ∀ fallback, orDefault? fallback read found = some result := by
  cases h with
  | some hJson => exact ⟨hRead _ hJson, fun _ => hRead _ hJson⟩

/-- A value that may be missing is read from its entry, or from there being
none. -/
theorem readAs_optional (hRead : ∀ a, ReadAs read (encode a) a)
    (hNull : ∀ a, encode a ≠ .null) {value : Option α} {found : Option Json}
    (h : Option.Rel Reordered (value.map encode) found) :
    orDefault? none (orNull? read) found = some value := by
  cases value with
  | none =>
      cases h
      rfl
  | some a =>
      cases h with
      | @some _ json hJson =>
        have hValue := hRead a json hJson
        cases json with
        | null => exact absurd hJson.eq_null (hNull a)
        | _ => exact congrArg (Option.map some) hValue

end ReadAs

/-! ## Names -/

theorem mem_names_entry {name other : Text} {value : Json} :
    name ∈ (entry other value).map Prod.fst ↔ name = other := by
  simp [entry]

/-- An entry that may be missing is there for a value that is not. -/
theorem mem_names_optional {α : Type} {name other : Text} {encode : α → Json}
    {value : Option α} :
    name ∈ ( entry? other encode value).map Prod.fst ↔
      name = other ∧ value ≠ none := by
  cases value <;> simp [ entry?]

end Json

open Json

/-! ## Terms -/

theorem Operator.readAs_keyword (operator : Operator) :
    ReadAs ofJson? (.text operator.keyword) operator := by
  intro json h
  rw [h.eq_text]
  cases operator <;> rfl

namespace Term

variable (term : Term)

/-- The entries of a term. -/
def entries : List (Text × Json) :=
  entry? "id" .word term.id ++ entry? "column" .text term.column ++
    entry "operator" (.text term.operator.keyword) ++
    entry? "value" .text term.value

theorem toJson_eq : term.toJson = .object term.entries := rfl

/-- What stands under each name. -/
theorem get?_entries :
    get? term.entries "id" = term.id.map .word ∧
      get? term.entries "column" = term.column.map .text ∧
      get? term.entries "operator" = some (.text term.operator.keyword) ∧
      get? term.entries "value" = term.value.map .text := by
  obtain ⟨id, column, operator, value⟩ := term
  cases id <;> cases column <;> cases value <;> exact ⟨rfl, rfl, rfl, rfl⟩

theorem nodup_names : (term.entries.map Prod.fst).Nodup := by
  obtain ⟨id, column, operator, value⟩ := term
  cases id <;> cases column <;> cases value <;>
    simp [entries, entry, entry?]

/-- **A term is read back** from what it is written as. -/
theorem readAs_toJson : ReadAs ofJson? term.toJson term := by
  intro json h
  rw [toJson_eq] at h
  obtain ⟨moved, rfl, hFound⟩ := h.get? term.nodup_names
  obtain ⟨hId, hColumn, hOperator, hValue⟩ := term.get?_entries
  have hIdRead := readAs_optional readAs_word (by simp [word, nat])
    (hId ▸ hFound "id")
  have hColumnRead := readAs_optional readAs_text (by simp)
    (hColumn ▸ hFound "column")
  have hValueRead := readAs_optional readAs_text (by simp)
    (hValue ▸ hFound "value")
  have hOperatorRead := readAs_present term.operator.readAs_keyword
    (hOperator ▸ hFound "operator")
  simp only [ofJson?, ofParts?, hIdRead, hColumnRead, hOperatorRead.1,
    hValueRead, Option.bind_eq_bind, Option.bind_some]
  rfl

/-- **Only what is absent is left out** of a term. -/
theorem mem_names_toJson (name : Text) :
    name ∈ term.toJson.names ↔
      (name = "id".toList ∧ term.id ≠ none) ∨
        (name = "column".toList ∧ term.column ≠ none) ∨
        name = "operator".toList ∨
        (name = "value".toList ∧ term.value ≠ none) := by
  rw [toJson_eq, Json.names, entries]
  simp only [List.map_append, List.mem_append, mem_names_entry,
    mem_names_optional, or_assoc]

end Term

/-! ## Requests -/

namespace Request

variable (request : Request)

/-- The entries of a request. -/
def entries : List (Text × Json) :=
  entry "offset" (.word request.offset) ++
    entry? "limit" .word request.limit ++
    entry "filters" (.list (request.filters.map Term.toJson)) ++
    entry "sorters" (.list (request.sorters.map Term.toJson)) ++
    if request.parameters.isEmpty then []
    else entry "parameters" (.list (request.parameters.map Json.pair))

theorem toJson_eq : request.toJson = .object request.entries := rfl

/-- What stands under each name. -/
theorem get?_entries :
    get? request.entries "offset" = some (.word request.offset) ∧
      get? request.entries "limit" = request.limit.map .word ∧
      get? request.entries "filters" =
        some (.list (request.filters.map Term.toJson)) ∧
      get? request.entries "sorters" =
        some (.list (request.sorters.map Term.toJson)) ∧
      get? request.entries "parameters" =
        if request.parameters.isEmpty then none
        else some (.list (request.parameters.map Json.pair)) := by
  obtain ⟨offset, limit, filters, sorters, parameters⟩ := request
  cases limit <;> cases parameters <;> exact ⟨rfl, rfl, rfl, rfl, rfl⟩

theorem nodup_names : (request.entries.map Prod.fst).Nodup := by
  obtain ⟨offset, limit, filters, sorters, parameters⟩ := request
  cases limit <;> cases parameters <;>
    simp [entries, entry, entry?]

/-- Empty parameters are read from there being no entry for them. -/
theorem parameters_read {found : Option Json}
    (h : Option.Rel Reordered (if request.parameters.isEmpty then none
      else some (.list (request.parameters.map Json.pair))) found) :
    orDefault? [] (list? pair?) found = some request.parameters := by
  split at h
  · next hEmpty =>
    rw [List.isEmpty_iff] at hEmpty
    cases h
    rw [hEmpty]
    rfl
  · exact (readAs_present (readAs_list readAs_pair _) h).2 []

/-- **A request is read back** from what it is written as. -/
theorem readAs_toJson : ReadAs ofJson? request.toJson request := by
  intro json h
  rw [toJson_eq] at h
  obtain ⟨moved, rfl, hFound⟩ := h.get? request.nodup_names
  obtain ⟨hOffset, hLimit, hFilters, hSorters, hParameters⟩ :=
    request.get?_entries
  have hOffsetRead := (readAs_present (readAs_word request.offset)
    (hOffset ▸ hFound "offset")).2
  have hLimitRead := readAs_optional readAs_word (by simp [word, nat])
    (hLimit ▸ hFound "limit")
  have hFiltersRead := (readAs_present
    (readAs_list Term.readAs_toJson request.filters)
    (hFilters ▸ hFound "filters")).2
  have hSortersRead := (readAs_present
    (readAs_list Term.readAs_toJson request.sorters)
    (hSorters ▸ hFound "sorters")).2
  have hParametersRead := request.parameters_read
    (hParameters ▸ hFound "parameters")
  simp only [ofJson?, ofParts?, hOffsetRead, hLimitRead, hFiltersRead,
    hSortersRead, hParametersRead, Option.bind_eq_bind, Option.bind_some]
  rfl

/-- **Only an absent limit and empty parameters are left out** of a request. -/
theorem mem_names_toJson (name : Text) :
    name ∈ request.toJson.names ↔
      name = "offset".toList ∨
        (name = "limit".toList ∧ request.limit ≠ none) ∨
        name = "filters".toList ∨ name = "sorters".toList ∨
        (name = "parameters".toList ∧ request.parameters ≠ []) := by
  have hParameters : name ∈ (if request.parameters.isEmpty then []
      else entry "parameters"
        (.list (request.parameters.map Json.pair))).map Prod.fst ↔
      name = "parameters".toList ∧ request.parameters ≠ [] := by
    cases request.parameters with
    | nil => simp
    | cons first rest => simpa using mem_names_entry
  rw [toJson_eq, Json.names, entries]
  simp only [List.map_append, List.mem_append, mem_names_entry,
    mem_names_optional, hParameters, or_assoc]

/-- **Requests as JSON.** A request that is written and read again is the same,
also when the entries of objects have come into another order on the way. An
absent limit and empty parameters have no entry, nor have the absent
identifiers, columns and values of terms; everything else has one. -/
theorem ofJson?_toJson :
    ofJson? request.toJson = some request ∧
      (∀ json, Reordered request.toJson json → ofJson? json = some request) ∧
      (∀ name, name ∈ request.toJson.names ↔
        name = "offset".toList ∨
          (name = "limit".toList ∧ request.limit ≠ none) ∨
          name = "filters".toList ∨ name = "sorters".toList ∨
          (name = "parameters".toList ∧ request.parameters ≠ [])) ∧
      ∀ term ∈ request.filters ++ request.sorters, ∀ name,
        name ∈ term.toJson.names ↔
          (name = "id".toList ∧ term.id ≠ none) ∨
            (name = "column".toList ∧ term.column ≠ none) ∨
            name = "operator".toList ∨
            (name = "value".toList ∧ term.value ≠ none) :=
  ⟨request.readAs_toJson _ (.refl _), request.readAs_toJson,
    request.mem_names_toJson, fun term _ => term.mem_names_toJson⟩

/-- A connective without a column and with an empty value, the largest limit and
a key that comes twice, read from the entries in the opposite order. -/
theorem ofJson?_toJson_of_reversed :
    let request : Request :=
      { offset := 0
        limit := some 18446744073709551615
        filters := [⟨some 7, none, .or, some []⟩]
        sorters := []
        parameters := [("a", "1"), ("b", "2"), ("a", "3")] }
    ofJson? (.object request.entries.reverse) = some request := by
  intro request
  have hMoved : Reordered request.toJson (.object request.entries.reverse) :=
    .object rfl (List.forall₂_same.mpr fun value _ => .refl value)
      (List.reverse_perm _).symm
  exact request.ofJson?_toJson.2.1 _ hMoved

end Request

end QueryPhrase
