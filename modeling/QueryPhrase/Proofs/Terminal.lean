import QueryPhrase.Terminal
import QueryPhrase.Proofs.Lexer.Leaves

/-!
# Highlighted phrases

A highlighted phrase is its leaves, one after the other, each between its style
and a reset if its kind has a style. A composite shows nothing of its own. So
without the escape sequences what the leaves hold is left, and as the leaves of
a text tile it, that is the text.

A style is one escape sequence: it ends with its only `m`. What is shown must
not begin a sequence of its own, so the phrases are those without an escape
character.

## Main results

* `Terminal.highlight_eq_leaves` — a phrase is highlighted leaf by leaf.
* `Terminal.strip_highlight` — the leaves are left without the sequences.
* `Terminal.highlight_lossless` — the text is, and each leaf is in its style at
  its place.
-/

namespace QueryPhrase

namespace Terminal

/-! ## Taking sequences out -/

section Strip

variable {text rest parameter : Text}

/-- A text without escape characters is left as it is. -/
theorem stripFrom_plain (hText : '\x1b' ∉ text) (rest : Text) :
    stripFrom false (text ++ rest) = text ++ stripFrom false rest := by
  induction text with
  | nil => rfl
  | cons c others ih =>
      rw [List.mem_cons, not_or] at hText
      rw [List.cons_append, stripFrom, if_neg (Ne.symm hText.1), ih hText.2]
      rfl

/-- Inside a sequence everything goes up to the next `m`. -/
theorem stripFrom_inside (hParameter : 'm' ∉ parameter) (rest : Text) :
    stripFrom true (parameter ++ 'm' :: rest) = stripFrom false rest := by
  induction parameter with
  | nil => rfl
  | cons c others ih =>
      rw [List.mem_cons, not_or] at hParameter
      have hGoesOn : (c != 'm') = true := bne_iff_ne.mpr (Ne.symm hParameter.1)
      rw [List.cons_append, stripFrom, hGoesOn, ih hParameter.2]

theorem stripFrom_sequence (hParameter : 'm' ∉ parameter) (rest : Text) :
    stripFrom false (sequence parameter ++ rest) = stripFrom false rest := by
  have hInside : 'm' ∉ '[' :: parameter := by
    rw [List.mem_cons, not_or]
    exact ⟨by decide, hParameter⟩
  rw [← stripFrom_inside hInside rest]
  simp [sequence, stripFrom]

end Strip

/-! ## Leaves -/

/-- A style is one escape sequence. -/
theorem exists_sequence_of_style? {kind : TokenKind} {style : Text}
    (hStyle : style? kind = some style) :
    ∃ parameter, 'm' ∉ parameter ∧ style = sequence parameter := by
  have hCases : style = cyan ∨ style = dim ∨ style = green ∨ style = yellow ∨
      style = magenta := by
    cases kind <;> simp_all [style?]
  rcases hCases with h | h | h | h | h <;>
    exact ⟨_, by decide, h⟩

/-- Of a highlighted leaf its value is left. -/
theorem stripFrom_highlightLeaf (kind : TokenKind) {value : Text}
    (hValue : '\x1b' ∉ value) (rest : Text) :
    stripFrom false (highlightLeaf kind value ++ rest) =
      value ++ stripFrom false rest := by
  rw [highlightLeaf]
  cases hStyle : style? kind with
  | none => exact stripFrom_plain hValue rest
  | some style =>
      obtain ⟨parameter, hParameter, hSequence⟩ :=
        exists_sequence_of_style? hStyle
      have hReset : stripFrom false (reset ++ rest) = stripFrom false rest :=
        stripFrom_sequence (by decide) rest
      simp only [paint, hSequence, List.append_assoc]
      rw [stripFrom_sequence hParameter, stripFrom_plain hValue, hReset]

/-- The leaves in their styles, one after the other. -/
def highlightLeaves (leaves : List Token) : Text :=
  leaves.flatMap fun leaf => highlightLeaf leaf.kind leaf.value

mutual

theorem highlightToken_eq_leaves : ∀ token : Token,
    highlightToken token = highlightLeaves token.leaves
  | ⟨kind, value, _, _, []⟩ => by
    simp [highlightToken, Token.leaves, highlightLeaves]
  | ⟨_, _, _, _, child :: children⟩ => by
    rw [highlightToken, Token.leaves]
    exact highlight_eq_leaves (child :: children)

/-- **A phrase is highlighted leaf by leaf.** -/
theorem highlight_eq_leaves : ∀ tokens : List Token,
    highlight tokens = highlightLeaves (Token.leavesOf tokens)
  | [] => by simp [highlight, Token.leavesOf, highlightLeaves]
  | token :: rest => by
    rw [highlight, Token.leavesOf, highlightToken_eq_leaves token,
      highlight_eq_leaves rest, highlightLeaves, highlightLeaves,
      highlightLeaves, List.flatMap_append]

end

/-- Of highlighted leaves their text is left. -/
theorem strip_highlightLeaves {leaves : List Token}
    (hLeaves : ∀ leaf ∈ leaves, '\x1b' ∉ leaf.value) :
    strip (highlightLeaves leaves) = Token.textOf leaves := by
  induction leaves with
  | nil => rfl
  | cons leaf rest ih =>
      rw [List.forall_mem_cons] at hLeaves
      have hRest := ih hLeaves.2
      rw [strip] at hRest ⊢
      rw [highlightLeaves, List.flatMap_cons,
        stripFrom_highlightLeaf _ hLeaves.1]
      exact congrArg (leaf.value ++ ·) hRest

/-- **Without the sequences the leaves are left**, whatever the tree. -/
theorem strip_highlight {tokens : List Token}
    (hLeaves : ∀ leaf ∈ Token.leavesOf tokens, '\x1b' ∉ leaf.value) :
    strip (highlight tokens) = Token.textOf (Token.leavesOf tokens) := by
  rw [highlight_eq_leaves, strip_highlightLeaves hLeaves]

/-! ## Phrases -/

/-- **Highlighting loses nothing.** Without its escape sequences a highlighted
text is the text again, in every grammar. Each of its leaves is shown at its
place, in the style of its kind: in front of it is what comes before it in the
text, and behind it what comes after it. -/
theorem highlight_lossless (grammar : Grammar) {text : Text}
    (hText : '\x1b' ∉ text) :
    strip (highlight (grammar.tokens text)) = text ∧
      ∀ leaf ∈ Token.leavesOf (grammar.tokens text), ∃ front back,
        highlight (grammar.tokens text) = front ++ (match style? leaf.kind with
          | some style => style ++ leaf.value ++ reset
          | none => leaf.value) ++ back ∧
        strip front = text.take leaf.start ∧
        strip back = text.drop (leaf.stop + 1) := by
  have hTiling : Tiling text (grammar.tokens text) :=
    Lexer.tokens_tile grammar.units text
  have hTiles := hTiling.tiles.leavesOf hTiling.hasParts
  have hPlain : ∀ leaf ∈ Token.leavesOf (grammar.tokens text),
      '\x1b' ∉ leaf.value := by
    intro leaf hLeaf hMem
    rw [(hTiles.covers leaf hLeaf).value_eq] at hMem
    exact hText (List.mem_of_mem_drop (List.mem_of_mem_take hMem))
  constructor
  · rw [strip_highlight hPlain, hTiles.textOf_eq]
    simp
  · intro leaf hLeaf
    obtain ⟨front, back, hSplit⟩ := List.append_of_mem hLeaf
    rw [hSplit] at hTiles hPlain
    obtain ⟨hFront, hBack⟩ := hTiles.split
    rw [List.forall_mem_append, List.forall_mem_cons] at hPlain
    refine ⟨highlightLeaves front, highlightLeaves back, ?_, ?_, ?_⟩
    · rw [highlight_eq_leaves, hSplit, highlightLeaves, List.flatMap_append,
        List.flatMap_cons, ← List.append_assoc]
      rfl
    · rw [strip_highlightLeaves hPlain.1, hFront.textOf_eq]
      simp
    · rw [strip_highlightLeaves hPlain.2.2, hBack.textOf_eq,
        List.take_of_length_le (Nat.le_of_eq List.length_drop)]

/-- A value that is a reset but for the escape character is shown whole. -/
theorem highlight_lossless_of_reset :
    let text : Text := "name like \"[0m\" or m"
    '\x1b' ∉ text ∧ strip (highlight (Grammar.matcher.tokens text)) = text ∧
      ∃ front back, highlight (Grammar.matcher.tokens text) =
          front ++ (green ++ "\"[0m\"".toList ++ reset) ++ back ∧
        strip front = "name like ".toList ∧ strip back = " or m".toList := by
  intro text
  have hText : '\x1b' ∉ text := by decide
  have hValue : (Token.leavesOf (Grammar.matcher.tokens text)).any (fun leaf =>
      leaf.kind == .value && leaf.value == "\"[0m\"".toList &&
        leaf.start == 10 && leaf.stop == 14) = true := by decide +kernel
  obtain ⟨leaf, hLeaf, hAt⟩ := List.any_eq_true.mp hValue
  simp only [Bool.and_eq_true, beq_iff_eq] at hAt
  obtain ⟨⟨⟨hKind, hHolds⟩, hStart⟩, hStop⟩ := hAt
  obtain ⟨hStrip, hLeaves⟩ := highlight_lossless .matcher hText
  have hShown := hLeaves leaf hLeaf
  rw [hKind, hHolds, hStart, hStop] at hShown
  exact ⟨hText, hStrip, hShown⟩

end Terminal

end QueryPhrase
