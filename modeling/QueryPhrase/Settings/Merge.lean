import QueryPhrase.Path
import QueryPhrase.Settings.Layer

/-!
# Merging layers

Layers of settings put on top of each other. The last one goes on the defaults and
each one before it on what is there by then, so the first layer that says something
of a setting decides it. Values are decided column by column.
-/

namespace QueryPhrase

/-- The analyzer settings under a layer. -/
def AnalyzerLayer.over (layer : AnalyzerLayer) (base : AnalyzerSettings) :
    AnalyzerSettings where
  grammar := layer.grammar.getD base.grammar
  candidates := layer.candidates.getD base.candidates

/-- The vocabulary under a layer. -/
def VocabularyLayer.over (layer : VocabularyLayer) (base : VocabularySettings) :
    VocabularySettings where
  columns := layer.columns.getD base.columns
  values := (layer.values.getD []).foldl
    (fun values entry => values.put entry.1 entry.2) base.values

/-- The settings for terms under a layer. -/
def TermLayer.over (layer : TermLayer) (base : TermSettings) : TermSettings where
  separator := layer.separator.getD base.separator
  matcher := layer.matcher.getD base.matcher
  pageSize := layer.pageSize.getD base.pageSize

/-- The flat form of requests under a layer. -/
def CodecLayer.over (layer : CodecLayer) (base : Codec) : Codec where
  filters := layer.filters.getD base.filters
  sorters := layer.sorters.getD base.sorters
  offset := layer.offset.getD base.offset
  limit := layer.limit.getD base.limit
  fieldSeparator := layer.fieldSeparator.getD base.fieldSeparator
  termDelimiter := layer.termDelimiter.getD base.termDelimiter

/-- The settings under a layer. -/
def Layer.over (layer : Layer) (base : Settings) : Settings where
  analyzer := layer.analyzer.elim base.analyzer (·.over base.analyzer)
  vocabulary := layer.vocabulary.elim base.vocabulary (·.over base.vocabulary)
  terms := layer.terms.elim base.terms (·.over base.terms)
  codec := layer.codec.elim base.codec (·.over base.codec)

/-- The settings of some layers, the one that decides first in front. -/
def Settings.ofLayers (layers : List Layer) : Settings :=
  layers.foldr Layer.over {}

/-- Settings and where they come from. -/
structure Configuration where
  settings : Settings
  /-- The directory of the file that decides first. -/
  root : Option Text
  /-- The files that were read, the one that decides first in front. -/
  sources : List Text
deriving DecidableEq, Repr

/-- The configuration of some files, given with their paths, the one that decides
first in front. -/
def Configuration.ofFiles (files : List (Text × Layer)) : Configuration where
  settings := .ofLayers (files.map Prod.snd)
  root := files.head?.bind fun file => Path.parent? file.1
  sources := files.map Prod.fst

end QueryPhrase
