import QueryPhrase.Text.Lowercase.Table

/-!
# Lowercase

Lowercasing by the Unicode default rules. Each character is replaced by its
lowercase mapping; two need more. A capital I with a dot becomes two characters,
and a capital sigma takes its final form at the end of a word: after a cased
character and not before one, case-ignorable characters in between not counted.
-/

namespace QueryPhrase

/-- The simple lowercase mapping of a character. -/
def simpleLowercase (c : Char) : Char :=
  let n := c.toNat
  match lowercaseRuns.find? fun (first, last, step, _) =>
      first ≤ n && n ≤ last && (n - first) % step == 0 with
  | some (first, _, _, image) => Char.ofNat (image + (n - first))
  | none => c

/-- The lowercase of a character on its own. -/
def lowercaseChar (c : Char) : Text :=
  if c.toNat < 128 then [c.toLower]
  else if c = '\u0130' then ['i', '\u0307']
  else [simpleLowercase c]

/-- Whether a cased character comes first once the case-ignorable ones are
skipped. -/
def casedFirst (text : Text) : Bool :=
  (text.dropWhile caseIgnorable.has).head?.any cased.has

/-- The form of a sigma between the given texts, the one before it reversed. -/
def lowercaseSigma (reversedBefore after : Text) : Char :=
  if casedFirst reversedBefore && !casedFirst after then 'ς' else 'σ'

/-- The lowercase of a text that follows another one, given reversed. -/
def lowercaseFrom (reversedBefore : Text) : Text → Text
  | [] => []
  | c :: rest =>
    (if c = 'Σ' then [lowercaseSigma reversedBefore rest]
      else lowercaseChar c) ++ lowercaseFrom (c :: reversedBefore) rest

/-- The lowercase of a text. -/
def lowercase (text : Text) : Text := lowercaseFrom [] text

end QueryPhrase
