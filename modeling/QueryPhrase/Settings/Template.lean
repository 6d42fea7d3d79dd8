import QueryPhrase.Text

/-!
# Templates

What a fresh settings file says: every setting with its default or an example, all
of it in comments, so that it documents the settings without making any.
-/

namespace QueryPhrase.Template

/-- The lines of an example for one directory. -/
def localLines : List Text :=
  [
    "# sift configuration",
    "#",
    "# Settings here override those in parent directories and in ~/.sift.toml.",
    "",
    "# Stop looking for configuration in parent directories and ignore ~/.sift.toml.",
    "root = true",
    "",
    "[analyzer]",
    "# Grammar used by `sift analyze` and `sift suggest`: word, field or matcher.",
    "grammar = \"matcher\"",
    "# Fixed completions for plain words.",
    "candidates = []",
    "",
    "[vocabulary]",
    "# Columns offered when a field or column name is being typed.",
    "columns = [\"status\", \"priority\", \"assignee\"]",
    "",
    "[vocabulary.values]",
    "status = [\"open\", \"closed\"]",
    "priority = [\"low\", \"medium\", \"high\"]",
    "",
    "[terms]",
    "# Separator placed between two matchers: and, or.",
    "default_separator = \"and\"",
    "# Operator for a new matcher: like, in, is, >=, <=, =.",
    "default_matcher = \"like\"",
    "# Results per page, sent as the limit.",
    "page_size = 25"]

/-- The lines of an example for the home directory. -/
def globalLines : List Text :=
  [
    "# Global sift configuration",
    "#",
    "# Lowest precedence: any .sift.toml between here and the working directory wins.",
    "",
    "[terms]",
    "default_separator = \"and\"",
    "default_matcher = \"like\"",
    "page_size = 25",
    "",
    "[params]",
    "# Names of the flat query parameters.",
    "filters = \"query\"",
    "sorters = \"sort\"",
    "offset = \"offset\"",
    "limit = \"limit\"",
    "# Separates the fields of one term and the terms of one list.",
    "field_separator = \":\"",
    "term_delimiter = \",\""]

/-- A line as a comment; blank lines and comments stay. -/
def commentLine (line : Text) : Text :=
  if line.isEmpty || line.head? = some '#' then line ++ ['\n']
  else '#' :: ' ' :: (line ++ ['\n'])

/-- What a fresh file in a directory says. -/
def localText : Text := localLines.flatMap commentLine

/-- What a fresh file in the home directory says. -/
def globalText : Text := globalLines.flatMap commentLine

end QueryPhrase.Template
