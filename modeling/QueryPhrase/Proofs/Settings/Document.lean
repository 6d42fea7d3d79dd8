import QueryPhrase.Settings.Document
import QueryPhrase.Proofs.Settings.Merge
import QueryPhrase.Proofs.Toml.Document
import QueryPhrase.Proofs.Toml.Value

/-!
# Written settings are read back

The settings of some layers are written as a document of plain statements, so
the document is read back as it was written. Its sections make up a table with one
entry for each of them, and the layer that is read from the table says of every
setting what it is set to. That layer alone gives the settings again.

## Main definitions

* `Settings.table` — the table that the written settings stand for.
* `Settings.layer` — the layer that says of each setting what it is set to.

## Main results

* `Settings.entries?_document`, `Layer.ofEntries?_table` — from the document to
  the table, and from the table to the layer.
* `Settings.read?_toText` — written settings are read as their layer.
* `Configuration.settings_reread` — and that gives the settings back.
-/

namespace QueryPhrase

open Toml (Entries Plain PlainStatement Section Statement Value)

namespace Settings

/-! ## The entries of each section -/

def analyzerEntries (settings : AnalyzerSettings) : Entries :=
  [("grammar", .text settings.grammar),
    ("candidates", textList settings.candidates)]

def columnEntries (settings : VocabularySettings) : Entries :=
  [("columns", textList settings.columns)]

def valueEntries (settings : VocabularySettings) : Entries :=
  settings.values.map fun entry => (entry.1, textList entry.2)

def termEntries (settings : TermSettings) : Entries :=
  [("default_separator", .text settings.separator),
    ("default_matcher", .text settings.matcher),
    ("page_size", .int settings.pageSize.toNat)]

def codecEntries (codec : Codec) : Entries :=
  [("filters", .text codec.filters), ("sorters", .text codec.sorters),
    ("offset", .text codec.offset), ("limit", .text codec.limit),
    ("field_separator", .text [codec.fieldSeparator]),
    ("term_delimiter", .text [codec.termDelimiter])]

/-- A section with these entries, one a line. -/
def sectionOf (parents : List Text) (key : Text) (entries : Entries) :
    Section :=
  ⟨false, parents, key, entries.map fun entry => ⟨[], entry.1, entry.2⟩⟩

theorem document_eq (settings : Settings) :
    settings.document =
      ⟨[], [sectionOf [] "analyzer" (analyzerEntries settings.analyzer),
        sectionOf [] "vocabulary" (columnEntries settings.vocabulary),
        sectionOf ["vocabulary"] "values" (valueEntries settings.vocabulary),
        sectionOf [] "terms" (termEntries settings.terms),
        sectionOf [] "params" (codecEntries settings.codec)]⟩ := by
  have hValues : valuesSection settings.vocabulary =
      sectionOf ["vocabulary"] "values" (valueEntries settings.vocabulary) := by
    rw [valuesSection, sectionOf, valueEntries, List.map_map]
    rfl
  rw [document, hValues]
  rfl

/-! ## The statements are plain -/

theorem plain_textList (texts : List Text) :
    Plain Toml.deepest (textList texts) := by
  refine .list 79 _ fun item hItem => ?_
  obtain ⟨text, -, rfl⟩ := List.mem_map.mp hItem
  exact .text 79 text

theorem plain_sectionOf {parents : List Text} {key : Text} {entries : Entries}
    (hParents : parents.length < Toml.deepest)
    (hEntries : ∀ entry ∈ entries, Plain Toml.deepest entry.2) :
    ∀ statement ∈ (sectionOf parents key entries).statements,
      PlainStatement statement := by
  refine List.forall_mem_cons.mpr ⟨hParents, fun statement hStatement => ?_⟩
  obtain ⟨assignment, hAssignment, rfl⟩ := List.mem_map.mp hStatement
  obtain ⟨entry, hEntry, rfl⟩ := List.mem_map.mp hAssignment
  exact ⟨hEntries entry hEntry, (by decide : 0 < Toml.deepest)⟩

theorem plain_statements (settings : Settings) :
    ∀ statement ∈ settings.document.statements, PlainStatement statement := by
  intro statement hStatement
  obtain ⟨block, hBlock, hStatement⟩ := List.mem_flatten.mp hStatement
  rw [document_eq] at hBlock
  obtain ⟨part, hPart, rfl⟩ := List.mem_map.mp hBlock
  have hText : ∀ text, Plain Toml.deepest (.text text) := .text Toml.deepest
  have hSize : Plain Toml.deepest (.int settings.terms.pageSize.toNat) := by
    have hWord := settings.terms.pageSize.toNat_lt
    exact .int Toml.deepest _ (Nat.lt_trans hWord (by decide))
  have hValues : ∀ entry ∈ valueEntries settings.vocabulary,
      Plain Toml.deepest entry.2 := by
    intro entry hEntry
    obtain ⟨known, -, rfl⟩ := List.mem_map.mp hEntry
    exact plain_textList known.2
  simp only [List.mem_cons, List.not_mem_nil, or_false] at hPart
  rcases hPart with rfl | rfl | rfl | rfl | rfl
  · refine plain_sectionOf (by decide) ?_ statement hStatement
    simp [analyzerEntries, hText, plain_textList]
  · refine plain_sectionOf (by decide) ?_ statement hStatement
    simp [columnEntries, plain_textList]
  · exact plain_sectionOf (by decide) hValues statement hStatement
  · refine plain_sectionOf (by decide) ?_ statement hStatement
    simp [termEntries, hText, hSize]
  · refine plain_sectionOf (by decide) ?_ statement hStatement
    simp [codecEntries, hText]

/-! ## The table of a document -/

def vocabularyEntries (settings : VocabularySettings) : Entries :=
  [("columns", textList settings.columns),
    ("values", .table .header (valueEntries settings))]

/-- The table that the written settings stand for. -/
def table (settings : Settings) : Entries :=
  [("analyzer", .table .header (analyzerEntries settings.analyzer)),
    ("vocabulary", .table .header (vocabularyEntries settings.vocabulary)),
    ("terms", .table .header (termEntries settings.terms)),
    ("params", .table .header (codecEntries settings.codec))]

/-! The keys that are written are those that are read, in the same order. -/

theorem keys_analyzerEntries (settings : AnalyzerSettings) :
    (analyzerEntries settings).map Prod.fst = Layer.analyzerKeys := rfl

theorem keys_vocabularyEntries (settings : VocabularySettings) :
    (vocabularyEntries settings).map Prod.fst = Layer.vocabularyKeys := rfl

theorem keys_termEntries (settings : TermSettings) :
    (termEntries settings).map Prod.fst = Layer.termKeys := rfl

theorem keys_codecEntries (codec : Codec) :
    (codecEntries codec).map Prod.fst = Layer.codecKeys := rfl

theorem keys_valueEntries (settings : VocabularySettings) :
    (valueEntries settings).map Prod.fst = settings.values.map Prod.fst := by
  rw [valueEntries, List.map_map]
  rfl

/-- A section adds its table to those before it. -/
theorem addSection_sectionOf {key : Text} {entries inner : Entries}
    (hNew : entries.get? key = none) (hOnce : (inner.map Prod.fst).Nodup) :
    entries.addSection (sectionOf [] key inner) =
      some (entries ++ [(key, .table .header inner)]) :=
  Entries.addSection_fresh rfl rfl hNew
    (Entries.assignAll_fresh (fun _ _ => rfl) hOnce)

/-- And a section inside another one adds its table there. -/
theorem addSection_inside_sectionOf {parent key : Text}
    {entries outer inner : Entries}
    (hOuter : entries.get? parent = some (.table .header outer))
    (hNew : outer.get? key = none) (hOnce : (inner.map Prod.fst).Nodup) :
    entries.addSection (sectionOf [parent] key inner) =
      some (entries.put parent
        (.table .header (outer ++ [(key, .table .header inner)]))) :=
  Entries.addSection_inside rfl rfl hOuter hNew
    (Entries.assignAll_fresh (fun _ _ => rfl) hOnce)

/-- **The sections of written settings** make up their table. -/
theorem entries?_document {settings : Settings}
    (hOnce : (settings.vocabulary.values.map Prod.fst).Nodup) :
    settings.document.entries? = some settings.table := by
  have hAnalyzer : ((analyzerEntries settings.analyzer).map Prod.fst).Nodup := by
    rw [keys_analyzerEntries]
    decide
  have hColumns : ((columnEntries settings.vocabulary).map Prod.fst).Nodup :=
    List.pairwise_singleton _ _
  have hTerms : ((termEntries settings.terms).map Prod.fst).Nodup := by
    rw [keys_termEntries]
    decide
  have hCodec : ((codecEntries settings.codec).map Prod.fst).Nodup := by
    rw [keys_codecEntries]
    decide
  have hValues : ((valueEntries settings.vocabulary).map Prod.fst).Nodup := by
    rw [keys_valueEntries]
    exact hOnce
  rw [document_eq, Toml.Document.entries?, Entries.assignAll, List.foldlM_nil]
  simp only [Option.pure_def, Option.bind_eq_bind, Option.bind_some,
    List.foldlM_cons, List.foldlM_nil]
  -- the values go into the table that the header before theirs has opened
  rw [addSection_sectionOf rfl hAnalyzer, Option.bind_some,
    addSection_sectionOf rfl hColumns, Option.bind_some,
    addSection_inside_sectionOf rfl rfl hValues, Option.bind_some,
    addSection_sectionOf rfl hTerms, Option.bind_some,
    addSection_sectionOf rfl hCodec, Option.bind_some]
  rfl

end Settings

namespace Layer

/-! ## The layer of a table -/

/-- A section says of each of its keys what it was given. -/
theorem fields?_table {entries : Entries} {keys : List Text}
    (hKeys : entries.map Prod.fst = keys) (hOnce : keys.Nodup) :
    fields? keys (.table .header entries) =
      some (entries.map fun entry => some entry.2) := by
  subst hKeys
  rw [fields?, List.map_map]
  refine congrArg some (List.map_congr_left fun entry hEntry => ?_)
  exact Entries.get?_of_mem hOnce hEntry

theorem texts?_textList (texts : List Text) :
    texts? (Settings.textList texts) = some texts := by
  rw [Settings.textList, texts?]
  induction texts with
  | nil => rfl
  | cons text others ih =>
      rw [List.map_cons, List.mapM_cons, ih]
      rfl

theorem textOrTexts?_textList (texts : List Text) :
    textOrTexts? (Settings.textList texts) = some texts := by
  rw [← texts?_textList texts]
  rfl

theorem textLists?_valueEntries (origin : Toml.Origin)
    (settings : VocabularySettings) :
    textLists? (.table origin (Settings.valueEntries settings)) =
      some settings.values := by
  rw [Settings.valueEntries, textLists?]
  induction settings.values with
  | nil => rfl
  | cons entry others ih =>
      rw [List.map_cons, List.mapM_cons, ih]
      simp only [texts?_textList]
      rfl

theorem word?_toNat (n : UInt64) : word? (.int n.toNat) = some n := by
  change (if n.toNat < UInt64.size then some (UInt64.ofNat n.toNat) else none) = _
  rw [if_pos n.toNat_lt, UInt64.ofNat_toNat]

end Layer

/-- The layer that says of each setting what it is set to. -/
def Settings.layer (settings : Settings) : Layer where
  analyzer := some ⟨some settings.analyzer.grammar,
    some settings.analyzer.candidates⟩
  vocabulary := some ⟨some settings.vocabulary.columns,
    some settings.vocabulary.values⟩
  terms := some ⟨some settings.terms.separator, some settings.terms.matcher,
    some settings.terms.pageSize⟩
  codec := some ⟨some settings.codec.filters, some settings.codec.sorters,
    some settings.codec.offset, some settings.codec.limit,
    some settings.codec.fieldSeparator, some settings.codec.termDelimiter⟩

namespace Layer

theorem analyzer?_table (settings : AnalyzerSettings) :
    analyzer? (.table .header (Settings.analyzerEntries settings)) =
      some ⟨some settings.grammar, some settings.candidates⟩ := by
  rw [analyzer?,
    fields?_table (Settings.keys_analyzerEntries settings) (by decide)]
  simp [Settings.analyzerEntries, orMissing?, text?, textOrTexts?_textList]

theorem vocabulary?_table (settings : VocabularySettings) :
    vocabulary? (.table .header (Settings.vocabularyEntries settings)) =
      some ⟨some settings.columns, some settings.values⟩ := by
  rw [vocabulary?,
    fields?_table (Settings.keys_vocabularyEntries settings) (by decide)]
  simp [Settings.vocabularyEntries, orMissing?, textOrTexts?_textList,
    textLists?_valueEntries]

theorem terms?_table (settings : TermSettings) :
    terms? (.table .header (Settings.termEntries settings)) =
      some ⟨some settings.separator, some settings.matcher,
        some settings.pageSize⟩ := by
  rw [terms?, fields?_table (Settings.keys_termEntries settings) (by decide)]
  simp [Settings.termEntries, orMissing?, text?, word?_toNat]

theorem codec?_table (codec : Codec) :
    codec? (.table .header (Settings.codecEntries codec)) =
      some ⟨some codec.filters, some codec.sorters, some codec.offset,
        some codec.limit, some codec.fieldSeparator,
        some codec.termDelimiter⟩ := by
  rw [codec?, fields?_table (Settings.keys_codecEntries codec) (by decide)]
  simp [Settings.codecEntries, orMissing?, text?, char?]

/-- **The table of written settings** is read as their layer. -/
theorem ofEntries?_table (settings : Settings) :
    ofEntries? settings.table = some settings.layer := by
  have hRoot : settings.table.get? "root" = none := rfl
  have hAnalyzer : settings.table.get? "analyzer" =
      some (.table .header (Settings.analyzerEntries settings.analyzer)) := rfl
  have hVocabulary : settings.table.get? "vocabulary" =
      some (.table .header (Settings.vocabularyEntries settings.vocabulary)) := rfl
  have hTerms : settings.table.get? "terms" =
      some (.table .header (Settings.termEntries settings.terms)) := rfl
  have hCodec : settings.table.get? "params" =
      some (.table .header (Settings.codecEntries settings.codec)) := rfl
  rw [ofEntries?, hRoot, hAnalyzer, hVocabulary, hTerms, hCodec]
  simp only [orMissing?, analyzer?_table, vocabulary?_table, terms?_table,
    codec?_table]
  rfl

end Layer

namespace Settings

/-! ## Reading back -/

theorem nodup_columns {settings : Settings}
    (h : settings.vocabulary.values.Ordered) :
    (settings.vocabulary.values.map Prod.fst).Nodup := by
  rw [List.Nodup, List.pairwise_map]
  refine h.imp fun {entry other} hBefore hSame => ?_
  rw [hSame] at hBefore
  exact Text.precedes_irrefl other.1 hBefore

/-- **Written settings are read as their layer.** -/
theorem read?_toText {settings : Settings}
    (h : settings.vocabulary.values.Ordered) :
    Layer.read? settings.toText = some settings.layer := by
  rw [Layer.read?, Toml.read?, toText,
    Toml.Document.read?_documentText (plain_statements settings),
    Option.bind_some, entries?_document (nodup_columns h), Option.bind_some,
    Layer.ofEntries?_table]

/-- **The layer of some settings** gives them back. -/
theorem ofLayers_layer {settings : Settings}
    (h : settings.vocabulary.values.Ordered) :
    ofLayers [settings.layer] = settings := by
  refine eq_of_get (ordered_ofLayers _) h fun setting => ?_
  rw [get_ofLayers, List.findSome?_singleton]
  cases setting with
  | values column =>
      change ((settings.vocabulary.values.reverse.lookup column).map some).getD
        none = settings.vocabulary.values.lookup column
      rw [h.lookup_reverse]
      cases settings.vocabulary.values.lookup column <;> rfl
  | grammar | candidates | columns | separator | matcher | pageSize => rfl
  | filters | sorters | offset | limit | fieldSeparator | termDelimiter => rfl

end Settings

end QueryPhrase
