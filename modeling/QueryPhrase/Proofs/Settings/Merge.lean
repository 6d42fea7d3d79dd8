import QueryPhrase.Settings.Merge
import QueryPhrase.Proofs.Settings.Columns

/-!
# The first layer decides

Layers are put on top of each other from the last one to the first, section by
section and field by field. What comes of it can be said setting by setting, and
from the front: the first layer that says something of a setting decides it, and
the default holds where none does. The values of each column are a setting of
their own.

One law, `Layer.get_over`, says for every setting what one layer does to it. What
several layers do follows by going through them once.

## Main definitions

* `Setting` — the settings, each by its name.
* `Settings.get`, `Layer.get?` — what is set, and what a layer says of it.

## Main results

* `Settings.get_ofLayers` — the first layer that says something decides.
* `Configuration.ofFiles_first_decides` — so does the first file, and files behind
  it only fill in what it leaves open.
-/

namespace QueryPhrase

/-- The settings: the fields of each section, and the values of each column. -/
inductive Setting
  | grammar
  | candidates
  | columns
  | values (column : Text)
  | separator
  | matcher
  | pageSize
  | filters
  | sorters
  | offset
  | limit
  | fieldSeparator
  | termDelimiter
deriving DecidableEq, Repr

/-- What a setting is set to. A column may have no values. -/
def Setting.Choice : Setting → Type
  | candidates | columns => List Text
  | values _ => Option (List Text)
  | pageSize => UInt64
  | fieldSeparator | termDelimiter => Char
  | grammar | separator | matcher | filters | sorters | offset | limit => Text

/-- What is set. -/
def Settings.get (settings : Settings) : (setting : Setting) → setting.Choice
  | .grammar => settings.analyzer.grammar
  | .candidates => settings.analyzer.candidates
  | .columns => settings.vocabulary.columns
  | .values column => settings.vocabulary.values.lookup column
  | .separator => settings.terms.separator
  | .matcher => settings.terms.matcher
  | .pageSize => settings.terms.pageSize
  | .filters => settings.codec.filters
  | .sorters => settings.codec.sorters
  | .offset => settings.codec.offset
  | .limit => settings.codec.limit
  | .fieldSeparator => settings.codec.fieldSeparator
  | .termDelimiter => settings.codec.termDelimiter

namespace Layer

/-- The values that a layer lists for a column. A file lists a column once; of two
lists the last one would count. -/
def valuesOf? (layer : Layer) (column : Text) : Option (List Text) :=
  (layer.vocabulary.bind (·.values)).bind (·.reverse.lookup column)

/-- What a layer says of a setting. -/
def get? (layer : Layer) : (setting : Setting) → Option setting.Choice
  | .grammar => layer.analyzer.bind (·.grammar)
  | .candidates => layer.analyzer.bind (·.candidates)
  | .columns => layer.vocabulary.bind (·.columns)
  | .values column => (layer.valuesOf? column).map some
  | .separator => layer.terms.bind (·.separator)
  | .matcher => layer.terms.bind (·.matcher)
  | .pageSize => layer.terms.bind (·.pageSize)
  | .filters => layer.codec.bind (·.filters)
  | .sorters => layer.codec.bind (·.sorters)
  | .offset => layer.codec.bind (·.offset)
  | .limit => layer.codec.bind (·.limit)
  | .fieldSeparator => layer.codec.bind (·.fieldSeparator)
  | .termDelimiter => layer.codec.bind (·.termDelimiter)

/-! ## One layer -/

/-- **One layer decides what it speaks of** and leaves all else. -/
theorem get_over (layer : Layer) (base : Settings) (setting : Setting) :
    (layer.over base).get setting =
      (layer.get? setting).getD (base.get setting) := by
  obtain ⟨root, analyzer, vocabulary, terms, codec⟩ := layer
  cases setting with
  | grammar | candidates => cases analyzer <;> rfl
  | columns => cases vocabulary <;> rfl
  | values column =>
      rcases vocabulary with _ | ⟨columns, _ | lists⟩
      · rfl
      · rfl
      · -- the lists are put in one by one, so the last one for a column stays
        have hLookup :=
          ColumnValues.lookup_foldl_put lists base.vocabulary.values column
        change List.lookup column (lists.foldl _ base.vocabulary.values) =
          ((lists.reverse.lookup column).map some).getD
            (base.vocabulary.values.lookup column)
        rw [hLookup]
        cases lists.reverse.lookup column <;> rfl
  | separator | matcher | pageSize => cases terms <;> rfl
  | filters | sorters | offset | limit | fieldSeparator | termDelimiter =>
      cases codec <;> rfl

theorem ordered_over (layer : Layer) {base : Settings}
    (h : base.vocabulary.values.Ordered) :
    (layer.over base).vocabulary.values.Ordered := by
  obtain ⟨root, analyzer, vocabulary, terms, codec⟩ := layer
  cases vocabulary with
  | none => exact h
  | some said => exact h.foldl_put (said.values.getD [])

end Layer

/-! ## Several layers -/

namespace Settings

/-- **The first layer that says something of a setting decides it**, and the
default holds where none does. -/
theorem get_ofLayers (layers : List Layer) (setting : Setting) :
    (ofLayers layers).get setting =
      (layers.findSome? (·.get? setting)).getD (({} : Settings).get setting) := by
  induction layers with
  | nil => rfl
  | cons layer rest ih =>
      change (layer.over (ofLayers rest)).get setting = _
      rw [Layer.get_over, ih, List.findSome?_cons]
      cases layer.get? setting <;> rfl

theorem ordered_ofLayers (layers : List Layer) :
    (ofLayers layers).vocabulary.values.Ordered := by
  induction layers with
  | nil => exact List.Pairwise.nil
  | cons layer rest ih => exact layer.ordered_over ih

/-- The first layer that lists a column decides its values. -/
theorem lookup_ofLayers (layers : List Layer) (column : Text) :
    (ofLayers layers).vocabulary.values.lookup column =
      layers.findSome? (·.valuesOf? column) := by
  have hGet : (ofLayers layers).vocabulary.values.lookup column =
      (layers.findSome? fun layer => (layer.valuesOf? column).map some).getD
        none := get_ofLayers layers (.values column)
  have hMap : (layers.findSome? fun layer => (layer.valuesOf? column).map some) =
      (layers.findSome? (·.valuesOf? column)).map some :=
    List.map_findSome?.symm
  rw [hGet, hMap]
  cases layers.findSome? (·.valuesOf? column) <;> rfl

/-- Columns have values where some layer lists them. -/
theorem mem_columns_ofLayers (layers : List Layer) (column : Text) :
    column ∈ (ofLayers layers).vocabulary.values.map Prod.fst ↔
      ∃ layer ∈ layers, (layer.valuesOf? column).isSome = true := by
  rw [← List.findSome?_isSome_iff, ← lookup_ofLayers, List.lookup_isSome_iff,
    List.mem_map]
  simp only [beq_iff_eq]
  exact exists_congr fun _ => and_congr_right fun _ => eq_comm

/-- **The settings, one by one, are all there is.** -/
theorem eq_of_get {a b : Settings} (hA : a.vocabulary.values.Ordered)
    (hB : b.vocabulary.values.Ordered)
    (h : ∀ setting, a.get setting = b.get setting) : a = b := by
  rcases a with ⟨⟨_, _⟩, ⟨_, _⟩, ⟨_, _, _⟩, ⟨_, _, _, _, _, _⟩⟩
  rcases b with ⟨⟨_, _⟩, ⟨_, _⟩, ⟨_, _, _⟩, ⟨_, _, _, _, _, _⟩⟩
  simp only [Settings.mk.injEq, AnalyzerSettings.mk.injEq,
    VocabularySettings.mk.injEq, TermSettings.mk.injEq, Codec.mk.injEq]
  exact ⟨⟨h .grammar, h .candidates⟩,
    ⟨h .columns, hA.ext hB fun column => h (.values column)⟩,
    ⟨h .separator, h .matcher, h .pageSize⟩,
    h .filters, h .sorters, h .offset, h .limit, h .fieldSeparator,
    h .termDelimiter⟩

end Settings

/-! ## Files -/

/-- **The first file that defines a setting decides it.** A setting has its
default where no file defines it, columns have values where some file lists them,
and each stands there once. Files put behind others only fill in what those leave
open. -/
theorem Configuration.ofFiles_first_decides (files : List (Text × Layer)) :
    (∀ setting, (ofFiles files).settings.get setting =
      (files.findSome? fun file => file.2.get? setting).getD
        (({} : Settings).get setting)) ∧
    ((ofFiles files).settings.vocabulary.values.Ordered ∧
      ∀ column, column ∈ (ofFiles files).settings.vocabulary.values.map Prod.fst ↔
        ∃ file ∈ files, (file.2.valuesOf? column).isSome = true) ∧
    (ofFiles files).root =
      files.head?.bind (fun file => Path.parent? file.1) ∧
    (ofFiles files).sources = files.map Prod.fst ∧
    ∀ others setting, (ofFiles (files ++ others)).settings.get setting =
      (files.findSome? fun file => file.2.get? setting).getD
        ((ofFiles others).settings.get setting) := by
  have hGet : ∀ (files : List (Text × Layer)) (setting : Setting),
      (ofFiles files).settings.get setting =
        (files.findSome? fun file => file.2.get? setting).getD
          (({} : Settings).get setting) := by
    intro files setting
    have hLayers := Settings.get_ofLayers (files.map Prod.snd) setting
    rwa [List.findSome?_map] at hLayers
  refine ⟨hGet files, ⟨Settings.ordered_ofLayers _, fun column => ?_⟩, rfl, rfl,
    fun others setting => ?_⟩
  · refine (Settings.mem_columns_ofLayers _ column).trans ?_
    constructor
    · rintro ⟨layer, hLayer, hListed⟩
      obtain ⟨file, hFile, rfl⟩ := List.mem_map.mp hLayer
      exact ⟨file, hFile, hListed⟩
    · rintro ⟨file, hFile, hListed⟩
      exact ⟨file.2, List.mem_map_of_mem hFile, hListed⟩
  · rw [hGet, hGet, List.findSome?_append]
    cases files.findSome? fun file => file.2.get? setting <;> rfl

end QueryPhrase
