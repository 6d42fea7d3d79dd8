import QueryPhrase.Parameters

/-!
# Parameters as a multimap

Parameters are a list of pairs and are read as a map that gives every key its
values in order. A change names one key. What it does to the values of that key
does not depend on the pairs of other keys, and it leaves those as they are, in
the order they were in.

Both come from one fact: taking the pairs of some keys and making a change
commute (`ofKeys_apply`). The keys may be any: one key gives the law for its
values, all keys but one give what a change leaves alone, and two keys give how
their pairs stand to each other. The fact goes over to a whole run of changes.

Where the pairs stand is said by `Gives`, whose constructors are the four things
a change can do to the list.

## Main definitions

* `Parameters.Change` — appending, setting and removing.
* `Parameters.Gives` — the list a change makes, place by place.
* `Parameters.ofKeys` — the pairs of some keys.

## Main results

* `Parameters.gives_apply` — a change makes the list it should.
* `Parameters.ofKeys_run` — what a run does to some keys is what the changes of
  these keys do to their pairs.
* `Parameters.run_multimap` — each step of a run, by key and by place.
-/

namespace QueryPhrase.Parameters

/-! ## Values of a key -/

section Values

variable {pairs : Parameters} {key : Text}

theorem getAll_append (a b : Parameters) (name : Text) :
    getAll (a ++ b) name = getAll a name ++ getAll b name := by
  simp [getAll]

theorem getAll_concat (pairs : Parameters) (pair : Text × Text) (name : Text) :
    getAll (pairs ++ [pair]) name =
      getAll pairs name ++ if pair.1 = name then [pair.2] else [] := by
  rw [getAll_append]
  by_cases hName : pair.1 = name <;> simp [getAll, hName]

theorem getAll_eq_nil (h : ∀ pair ∈ pairs, pair.1 ≠ key) :
    getAll pairs key = [] := by
  rw [getAll, List.map_eq_nil_iff, List.filter_eq_nil_iff]
  intro pair hPair
  simpa using h pair hPair

/-- The first value of a key is the first of its values. -/
theorem get?_eq_head? (pairs : Parameters) (key : Text) :
    get? pairs key = (getAll pairs key).head? := by
  rw [get?, getAll, List.head?_map, List.head?_filter]

theorem contains_iff : contains pairs key = true ↔ getAll pairs key ≠ [] := by
  rw [contains, get?_eq_head?, List.isSome_head?]

theorem getAll_without (pairs : Parameters) (key : Text) :
    getAll (without pairs key) key = [] := by
  apply getAll_eq_nil
  intro pair hPair
  simpa using (List.mem_filter.mp hPair).2

end Values

/-! ## Setting a key -/

section Set

variable {pairs before after : Parameters} {key old : Text} (value : Text)

/-- A key has no pair, or it has a first one. -/
theorem exists_first (pairs : Parameters) (key : Text) :
    (∀ pair ∈ pairs, pair.1 ≠ key) ∨
      ∃ before old after, pairs = before ++ (key, old) :: after ∧
        ∀ pair ∈ before, pair.1 ≠ key := by
  induction pairs with
  | nil => exact Or.inl (by simp)
  | cons pair rest ih =>
      obtain ⟨name, old⟩ := pair
      by_cases hName : name = key
      · exact Or.inr ⟨[], old, rest, by rw [hName]; rfl, by simp⟩
      · rcases ih with hNone | ⟨before, first, after, hRest, hBefore⟩
        · exact Or.inl (List.forall_mem_cons.mpr ⟨hName, hNone⟩)
        · exact Or.inr ⟨(name, old) :: before, first, after,
            by rw [hRest]; rfl, List.forall_mem_cons.mpr ⟨hName, hBefore⟩⟩

/-- Without a pair the key gets one at the end. -/
theorem set_of_absent (h : ∀ pair ∈ pairs, pair.1 ≠ key) :
    set pairs key value = pairs ++ [(key, value)] := by
  induction pairs with
  | nil => rfl
  | cons pair rest ih =>
      rw [List.forall_mem_cons] at h
      rw [set, if_neg h.1, ih h.2, List.cons_append]

/-- The first pair takes the value where it stands, and the others go. -/
theorem set_of_first (h : ∀ pair ∈ before, pair.1 ≠ key) :
    set (before ++ (key, old) :: after) key value =
      before ++ (key, value) :: without after key := by
  induction before with
  | nil => rw [List.nil_append, set, if_pos rfl, List.nil_append]
  | cons pair rest ih =>
      rw [List.forall_mem_cons] at h
      rw [List.cons_append, set, if_neg h.1, ih h.2, List.cons_append]

theorem getAll_set (pairs : Parameters) (key value : Text) :
    getAll (set pairs key value) key = [value] := by
  rcases exists_first pairs key with hNone | ⟨before, old, after, rfl, hBefore⟩
  · rw [set_of_absent value hNone, getAll_concat, getAll_eq_nil hNone]
    simp
  · rw [set_of_first value hBefore, ← List.singleton_append, getAll_append,
      getAll_append, getAll_eq_nil hBefore, getAll_without]
    simp [getAll]

end Set

/-! ## Changes -/

/-- What may be done to parameters. -/
inductive Change
  | append (key value : Text)
  | set (key value : Text)
  | remove (key : Text)
deriving DecidableEq, Repr

namespace Change

/-- The key that a change is about. -/
def key : Change → Text
  | append key _ | set key _ | remove key => key

def apply (pairs : Parameters) : Change → Parameters
  | append key value => pairs.append key value
  | set key value => Parameters.set pairs key value
  | remove key => (Parameters.remove pairs key).1

/-- The values of its key after a change. -/
def values (old : List Text) : Change → List Text
  | append _ value => old ++ [value]
  | set _ value => [value]
  | remove _ => []

end Change

/-- The parameters after some changes, one after the other. -/
def run (pairs : Parameters) (changes : List Change) : Parameters :=
  changes.foldl Change.apply pairs

theorem run_concat (pairs : Parameters) (changes : List Change)
    (change : Change) :
    run pairs (changes ++ [change]) = change.apply (run pairs changes) := by
  rw [run, List.foldl_append]
  rfl

theorem getAll_apply (pairs : Parameters) (change : Change) :
    getAll (change.apply pairs) change.key =
      change.values (getAll pairs change.key) := by
  cases change with
  | append key value =>
      rw [Change.apply, append, getAll_concat, Change.key, if_pos rfl]
      rfl
  | set key value => exact getAll_set pairs key value
  | remove key => exact getAll_without pairs key

/-- The list that a change makes of the pairs, place by place. -/
inductive Gives : Parameters → Change → Parameters → Prop
  | append (pairs : Parameters) (key value : Text) :
    Gives pairs (.append key value) (pairs ++ [(key, value)])
  /-- A key with a pair keeps the place of its first one. -/
  | replace {before : Parameters} {key : Text} (old : Text)
    (after : Parameters) (value : Text) : (∀ pair ∈ before, pair.1 ≠ key) →
      Gives (before ++ (key, old) :: after) (.set key value)
        (before ++ (key, value) :: after.filter (·.1 ≠ key))
  /-- A key without a pair gets one at the end. -/
  | add {pairs : Parameters} {key : Text} (value : Text) :
    (∀ pair ∈ pairs, pair.1 ≠ key) →
      Gives pairs (.set key value) (pairs ++ [(key, value)])
  | remove (pairs : Parameters) (key : Text) :
    Gives pairs (.remove key) (pairs.filter (·.1 ≠ key))

theorem without_eq_filter (pairs : Parameters) (key : Text) :
    without pairs key = pairs.filter (·.1 ≠ key) := by
  rw [without]
  congr 1
  funext pair
  rw [Bool.eq_iff_iff]
  simp

/-- **A change makes the list it should.** -/
theorem gives_apply (pairs : Parameters) (change : Change) :
    Gives pairs change (change.apply pairs) := by
  cases change with
  | append key value => exact .append pairs key value
  | set key value =>
      rw [Change.apply]
      rcases exists_first pairs key with
        hNone | ⟨before, old, after, rfl, hBefore⟩
      · rw [set_of_absent value hNone]
        exact .add value hNone
      · rw [set_of_first value hBefore, without_eq_filter]
        exact .replace old after value hBefore
  | remove key =>
      rw [Change.apply, remove, without_eq_filter]
      exact .remove pairs key

/-! ## The pairs of some keys -/

/-- The pairs whose keys are among the given ones. -/
def ofKeys (pairs : Parameters) (among : Text → Bool) : Parameters :=
  pairs.filter (among ·.1)

section Keys

variable (among : Text → Bool)

theorem ofKeys_cons (pair : Text × Text) (pairs : Parameters) :
    ofKeys (pair :: pairs) among =
      if among pair.1 then pair :: ofKeys pairs among else ofKeys pairs among :=
  List.filter_cons

theorem ofKeys_without (pairs : Parameters) (key : Text) :
    ofKeys (without pairs key) among = without (ofKeys pairs among) key := by
  rw [ofKeys, without, List.filter_filter, ofKeys, without, List.filter_filter]
  congr 1
  funext pair
  exact Bool.and_comm _ _

/-- Without the pairs of a key, none of these keys are missing but the key. -/
theorem without_ofKeys_of_not_mem (pairs : Parameters) {key : Text}
    (hKey : among key = false) :
    without (ofKeys pairs among) key = ofKeys pairs among := by
  rw [without, List.filter_eq_self]
  intro pair hPair
  rw [bne_iff_ne]
  rintro rfl
  rw [(List.mem_filter.mp hPair).2] at hKey
  cases hKey

/-- Setting a key is seen among the keys it is one of. -/
theorem ofKeys_set (pairs : Parameters) (key value : Text) :
    ofKeys (set pairs key value) among =
      if among key then set (ofKeys pairs among) key value
      else ofKeys pairs among := by
  induction pairs with
  | nil => simp only [set, ofKeys_cons]; rfl
  | cons pair rest ih =>
      obtain ⟨name, old⟩ := pair
      by_cases hName : name = key
      · subst hName
        rw [set, if_pos rfl, ofKeys_cons, ofKeys_cons, ofKeys_without]
        by_cases hAmong : among name = true
        · rw [if_pos hAmong, if_pos hAmong, if_pos hAmong, set, if_pos rfl]
        · rw [if_neg hAmong, if_neg hAmong, if_neg hAmong,
            without_ofKeys_of_not_mem among rest (by simpa using hAmong)]
      · rw [set, if_neg hName, ofKeys_cons, ofKeys_cons, ih]
        by_cases hAmong : among name = true
        · rw [if_pos hAmong, if_pos hAmong, set, if_neg hName]
          split <;> rfl
        · rw [if_neg hAmong, if_neg hAmong]

/-- **Taking the pairs of some keys and making a change commute**, and a change
of another key is not seen. -/
theorem ofKeys_apply (pairs : Parameters) (change : Change) :
    ofKeys (change.apply pairs) among =
      if among change.key then change.apply (ofKeys pairs among)
      else ofKeys pairs among := by
  cases change with
  | append key value =>
      have hLast : ofKeys (pairs ++ [(key, value)]) among =
          ofKeys pairs among ++ ofKeys [(key, value)] among :=
        List.filter_append _ _
      rw [Change.apply, append, hLast, ofKeys_cons, Change.key]
      split
      · rfl
      · exact List.append_nil _
  | set key value => exact ofKeys_set among pairs key value
  | remove key =>
      rw [Change.apply, remove, ofKeys_without, Change.key]
      split
      · rfl
      · next hKey =>
        exact without_ofKeys_of_not_mem among pairs (by simpa using hKey)

/-- **What a run does to some keys** is what the changes of these keys do to
their pairs. -/
theorem ofKeys_run (pairs : Parameters) (changes : List Change) :
    ofKeys (run pairs changes) among =
      run (ofKeys pairs among) (changes.filter (among ·.key)) := by
  induction changes generalizing pairs with
  | nil => rfl
  | cons change rest ih =>
      have hRest := ih (change.apply pairs)
      rw [ofKeys_apply] at hRest
      rw [List.filter_cons]
      split
      · next hKey =>
        rw [if_pos hKey] at hRest
        exact hRest
      · next hKey =>
        rw [if_neg hKey] at hRest
        exact hRest

end Keys

/-- A change is about one key only. -/
theorem ofKeys_others (pairs : Parameters) (change : Change) :
    ofKeys (change.apply pairs) (· ≠ change.key) =
      ofKeys pairs (· ≠ change.key) := by
  rw [ofKeys_apply, if_neg (by simp)]

theorem getAll_apply_of_ne (pairs : Parameters) {change : Change} {other : Text}
    (hOther : other ≠ change.key) :
    getAll (change.apply pairs) other = getAll pairs other := by
  have hPairs := ofKeys_apply (· == other) pairs change
  rw [if_neg (by simpa using hOther.symm)] at hPairs
  exact congrArg (List.map Prod.snd) hPairs

/-! ## Whole runs -/

/-- **Parameters are an ordered multimap.** After any run of changes the first
value of a key is the first of its values, and removing a key says whether it
has any. One more change makes the list it should, gives its key the values it
should, and leaves the pairs of all other keys as they are and in their order.
And of any keys, what the run made is what the changes of these keys alone make.
-/
theorem run_multimap (start : Parameters) (changes : List Change) :
    let pairs := run start changes
    (∀ key, get? pairs key = (getAll pairs key).head? ∧
        ((remove pairs key).2 = true ↔ getAll pairs key ≠ [])) ∧
      (∀ change, let next := run start (changes ++ [change])
        Gives pairs change next ∧
          getAll next change.key = change.values (getAll pairs change.key) ∧
          ofKeys next (· ≠ change.key) = ofKeys pairs (· ≠ change.key) ∧
          ∀ other, other ≠ change.key →
            getAll next other = getAll pairs other) ∧
      ∀ among : Text → Bool, ofKeys pairs among =
        run (ofKeys start among) (changes.filter (among ·.key)) := by
  intro pairs
  refine ⟨fun key => ⟨get?_eq_head? pairs key, contains_iff⟩, ?_, ?_⟩
  · intro change next
    have hNext : next = change.apply pairs := run_concat start changes change
    rw [hNext]
    exact ⟨gives_apply pairs change, getAll_apply pairs change,
      ofKeys_others pairs change, fun _ => getAll_apply_of_ne pairs⟩
  · exact fun among => ofKeys_run among start changes

example : run [] [.append "a" "1", .append "b" "2", .append "a" "3",
    .set "a" "9"] = [("a".toList, "9".toList), ("b".toList, "2".toList)] := by
  decide

end QueryPhrase.Parameters
