import Mathlib.Data.List.Pairwise
import QueryPhrase.Proofs.Lexer.Tiling

/-!
# Tokens on one level and their leaves

Tokens that tile a stretch of the text follow one another: each is over before
the next one begins, and every character of the stretch is in one of them. What
is in front of a token is tiled by the tokens in front of it, and so behind it.

The leaves of a tree are the tokens without parts. They are on different levels
of the tree, but in the text they follow one another as well: where tokens with
parts tile a stretch, their leaves tile it.

## Main definitions

* `Token.leaves`, `Token.leavesOf` — the tokens without parts, in order.

## Main results

* `Tiles.pairwise` — each token is over before the next one begins.
* `Tiles.exists_at` — one token for each character.
* `Tiles.leavesOf` — the leaves of tokens that tile a text tile it, too.
-/

namespace QueryPhrase

/-! ## Tokens on one level -/

namespace Tiles

variable {text : Text} {low middle high : Nat} {tokens others : List Token}

theorem append (h : Tiles text low tokens middle)
    (hOthers : Tiles text middle others high) :
    Tiles text low (tokens ++ others) high := by
  induction h with
  | nil => exact hOthers
  | cons hStart hCovers _ ih => exact .cons hStart hCovers (ih hOthers)

theorem covers (h : Tiles text low tokens high) :
    ∀ token ∈ tokens, token.Covers text := by
  induction h with
  | nil => simp
  | cons _ hCovers _ ih => exact List.forall_mem_cons.mpr ⟨hCovers, ih⟩

/-- Tokens that tile a stretch stay within it. -/
theorem bounds (h : Tiles text low tokens high) :
    ∀ token ∈ tokens, low ≤ token.start ∧ token.stop < high := by
  induction h with
  | nil => simp
  | cons hStart hCovers hRest ih =>
      have hStop := hCovers.start_le_stop
      have hHigh := hRest.low_le_high
      refine List.forall_mem_cons.mpr ⟨by omega, fun other hOther => ?_⟩
      have hOther := ih other hOther
      omega

/-- Tokens that tile a stretch do so in front of each of them and behind it. -/
theorem split {token : Token} {front back : List Token}
    (h : Tiles text low (front ++ token :: back) high) :
    Tiles text low front token.start ∧
      Tiles text (token.stop + 1) back high := by
  induction front generalizing low with
  | nil =>
      cases h with
      | cons hStart _ hBack =>
          rw [hStart]
          exact ⟨.nil low, hBack⟩
  | cons first front ih =>
      cases h with
      | cons hStart hCovers hRest =>
          obtain ⟨hFront, hBack⟩ := ih hRest
          exact ⟨.cons hStart hCovers hFront, hBack⟩

/-- Each of them is over before the next one begins. -/
theorem pairwise (h : Tiles text low tokens high) :
    tokens.Pairwise (·.stop < ·.start) := by
  induction h with
  | nil => exact .nil
  | cons _ _ hRest ih =>
      exact .cons (fun other hOther => (hRest.bounds other hOther).1) ih

/-- So they are in the order of their starts. -/
theorem pairwise_start (h : Tiles text low tokens high) :
    tokens.Pairwise (·.start < ·.start) := by
  refine h.pairwise.imp_of_mem fun hMem _ hBefore => ?_
  exact Nat.lt_of_le_of_lt (h.covers _ hMem).start_le_stop hBefore

/-- Of two tokens on one level, one is in front of the other. -/
theorem apart (h : Tiles text low tokens high) {a b : Token} (hA : a ∈ tokens)
    (hB : b ∈ tokens) (hOther : a ≠ b) :
    a.stop < b.start ∨ b.stop < a.start := by
  have : Std.Symm fun a b : Token => a.stop < b.start ∨ b.stop < a.start :=
    ⟨fun _ _ => Or.symm⟩
  have hApart : tokens.Pairwise
      fun a b => a.stop < b.start ∨ b.stop < a.start := h.pairwise.imp Or.inl
  exact hApart.forall hA hB hOther

/-- **One token for each character**: those in front of it have stopped before,
and those behind it have not started. -/
theorem exists_at (h : Tiles text low tokens high) {offset : Nat}
    (hLow : low ≤ offset) (hHigh : offset < high) :
    ∃ front token back, tokens = front ++ token :: back ∧
      (token.start ≤ offset ∧ offset ≤ token.stop) ∧
      (∀ other ∈ front, other.stop < offset) ∧
      ∀ other ∈ back, offset < other.start := by
  induction h with
  | nil => omega
  | @cons low high token rest hStart hCovers hRest ih =>
      by_cases hStop : offset ≤ token.stop
      · refine ⟨[], token, rest, rfl, ⟨by omega, hStop⟩, by simp, ?_⟩
        intro other hOther
        have hBounds := hRest.bounds other hOther
        omega
      · obtain ⟨front, found, back, hSplit, hFound, hFront, hBack⟩ :=
          ih (by omega) hHigh
        refine ⟨token :: front, found, back, by rw [hSplit]; rfl, hFound, ?_,
          hBack⟩
        exact List.forall_mem_cons.mpr ⟨by omega, hFront⟩

end Tiles

/-! ## Leaves -/

namespace Token

mutual

/-- The tokens without parts that a token is made of. -/
def leaves : Token → List Token
  | ⟨kind, value, start, stop, []⟩ => [⟨kind, value, start, stop, []⟩]
  | ⟨_, _, _, _, child :: children⟩ => leavesOf (child :: children)

/-- The tokens without parts that tokens are made of, in order. -/
def leavesOf : List Token → List Token
  | [] => []
  | token :: rest => leaves token ++ leavesOf rest

end

theorem leaves_of_childless {token : Token} (h : token.children = []) :
    token.leaves = [token] := by
  obtain ⟨kind, value, start, stop, children⟩ := token
  subst h
  rw [leaves]

theorem leaves_of_parts {token : Token} (h : token.children ≠ []) :
    token.leaves = leavesOf token.children := by
  obtain ⟨kind, value, start, stop, children⟩ := token
  cases children with
  | nil => exact absurd rfl h
  | cons child children => rw [leaves]

theorem leavesOf_of_childless {tokens : List Token}
    (h : ∀ token ∈ tokens, token.children = []) : leavesOf tokens = tokens := by
  induction tokens with
  | nil => rw [leavesOf]
  | cons token rest ih =>
      rw [List.forall_mem_cons] at h
      rw [leavesOf, leaves_of_childless h.1, ih h.2]
      rfl

theorem mem_leavesOf {tokens : List Token} {leaf : Token} :
    leaf ∈ leavesOf tokens ↔ ∃ token ∈ tokens, leaf ∈ token.leaves := by
  induction tokens with
  | nil => simp [leavesOf]
  | cons token rest ih => simp [leavesOf, ih]

end Token

/-- **The leaves of tokens that tile a stretch tile it, too.** -/
theorem Tiles.leavesOf {text : Text} {low high : Nat} {tokens : List Token}
    (h : Tiles text low tokens high)
    (hParts : ∀ token ∈ tokens, token.HasParts text) :
    Tiles text low (Token.leavesOf tokens) high := by
  induction h with
  | nil => exact .nil _
  | @cons low high token rest hStart hCovers _ ih =>
      rw [List.forall_mem_cons] at hParts
      have hLeaves : Tiles text low token.leaves (token.stop + 1) := by
        cases hKind : token.kind.isComposite with
        | false =>
            rw [Token.leaves_of_childless (hParts.1.of_leaf hKind)]
            exact .cons hStart hCovers (.nil _)
        | true =>
            obtain ⟨hSome, hChildless, hTiles, _⟩ := hParts.1.of_composite hKind
            rw [Token.leaves_of_parts hSome,
              Token.leavesOf_of_childless hChildless, ← hStart]
            exact hTiles
      exact hLeaves.append (ih hParts.2)

end QueryPhrase
