import QueryPhrase.Recognizer

/-!
# Cutting at chosen places

The simplest recognizer outside the built-in grammars: it always takes the run
and ends a word wherever the position is among its cuts. It keeps no characters,
only the places at which it was asked, so it shows what recognizers see.
-/

namespace QueryPhrase

/-- A recognizer that cuts the text at given positions. -/
structure Cutter where
  /-- The positions at which a word ends. -/
  cuts : List Nat
  /-- The places at which it was asked for a token, the last one first. -/
  visits : List Scanner := []
deriving Repr

namespace Cutter

instance : Recognizer Cutter where
  name _ := "cutter"
  reset cutter _ := cutter
  append cutter _ := cutter
  locks _ _ := true
  token? cutter s :=
    if cutter.cuts.contains s.position then
      some (Token.leaf .word s.run s.start)
    else none
  asked cutter s := { cutter with visits := s :: cutter.visits }

end Cutter

end QueryPhrase
