import QueryPhrase.Toml.Document

/-!
# Filling tables

Assignments with keys that are not there yet add them to a table, in their order.
A section that was not opened yet adds its table, to the table of the document or
to one that another header has opened.

## Main results

* `Entries.get?_of_mem` — where no key stands twice, each has its own value.
* `Entries.assignAll_fresh` — assignments of new keys are added in their order.
* `Entries.addSection_fresh`, `Entries.addSection_inside` — new sections are
  added.
-/

namespace QueryPhrase.Toml

namespace Entries

theorem get?_append (entries others : Entries) (key : Text) :
    (entries ++ others).get? key = (entries.get? key).or (others.get? key) :=
  List.lookup_append

theorem beq_of_mem {key : Text} {others : Entries}
    (hKey : key ∉ others.map Prod.fst) {other : Text × Value}
    (hOther : other ∈ others) : (other.1 == key) = false := by
  rw [beq_eq_false_iff_ne]
  rintro rfl
  exact hKey (List.mem_map_of_mem hOther)

/-- **Where no key stands twice**, each has its own value. -/
theorem get?_of_mem {entries : Entries} (hOnce : (entries.map Prod.fst).Nodup)
    {entry : Text × Value} (hEntry : entry ∈ entries) :
    entries.get? entry.1 = some entry.2 := by
  induction entries with
  | nil => cases hEntry
  | cons first others ih =>
      rw [List.map_cons, List.nodup_cons] at hOnce
      rw [get?, List.lookup_cons]
      rcases List.mem_cons.mp hEntry with rfl | hOther
      · rw [beq_self_eq_true]
      · rw [beq_of_mem hOnce.1 hOther]
        exact ih hOnce.2 hOther

/-- An assignment of a new key adds it. -/
theorem assign_fresh {entries : Entries} {key : Text} (value : Value)
    (h : entries.get? key = none) :
    entries.assign ⟨[], key, value⟩ = some (entries ++ [(key, value)]) := by
  rw [assign, alter]
  simp [h]

/-- **Assignments of new keys** are added in their order. -/
theorem assignAll_fresh {entries added : Entries}
    (hNew : ∀ entry ∈ added, entries.get? entry.1 = none)
    (hOnce : (added.map Prod.fst).Nodup) :
    entries.assignAll (added.map fun entry => ⟨[], entry.1, entry.2⟩) =
      some (entries ++ added) := by
  induction added generalizing entries with
  | nil => rw [List.append_nil]; rfl
  | cons entry others ih =>
      obtain ⟨key, value⟩ := entry
      rw [List.forall_mem_cons] at hNew
      rw [List.map_cons, List.nodup_cons] at hOnce
      have hRest : ∀ other ∈ others,
          (entries ++ [(key, value)]).get? other.1 = none := by
        intro other hOther
        rw [get?_append, hNew.2 other hOther, Option.none_or, get?,
          List.lookup_cons, beq_of_mem hOnce.1 hOther]
        rfl
      have hOthers := ih hRest hOnce.2
      rw [assignAll, List.map_cons, List.foldlM_cons, assign_fresh value hNew.1]
      rw [assignAll] at hOthers
      rw [Option.bind_eq_bind, Option.bind_some, hOthers, List.append_assoc]
      rfl

/-- **A section that was not opened yet** adds its table. -/
theorem addSection_fresh {entries inner : Entries} {part : Section}
    (hItem : part.item = false) (hTop : part.parents = [])
    (hNew : entries.get? part.key = none)
    (hInner : Entries.assignAll [] part.assignments = some inner) :
    entries.addSection part =
      some (entries ++ [(part.key, .table .header inner)]) := by
  rw [addSection, hTop, alter, hItem, if_neg Bool.false_ne_true,
    Section.addTable, hNew]
  simp [hInner]

/-- **A section inside another one** adds its table there. -/
theorem addSection_inside {entries outer inner : Entries} {part : Section}
    {parent : Text} (hItem : part.item = false)
    (hInside : part.parents = [parent])
    (hOuter : entries.get? parent = some (.table .header outer))
    (hNew : outer.get? part.key = none)
    (hInner : Entries.assignAll [] part.assignments = some inner) :
    entries.addSection part = some (entries.put parent
      (.table .header (outer ++ [(part.key, .table .header inner)]))) := by
  rw [addSection, hInside, alter, hOuter]
  simp [Origin.opensToHeader, alter, hItem, Section.addTable, hNew, hInner]

end Entries

end QueryPhrase.Toml
