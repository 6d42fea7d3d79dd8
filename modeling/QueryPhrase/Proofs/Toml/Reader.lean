import QueryPhrase.Toml.Reader
import QueryPhrase.Toml.Writer
import QueryPhrase.Proofs.Toml.Quoted
import QueryPhrase.Proofs.Toml.Scalar

/-!
# Keys and values are read back

A written key is read up to where it ends, and a path of keys up to what stands
behind it. A plain value is a text, a natural number or a list of plain values; it
is written from a character that no gap is made of, and read up to where it ends.
The reader of values takes fuel, and the length of what was written is enough.

## Main definitions

* `Plain` — values of texts, natural numbers and lists, and how deep they nest.

## Main results

* `readKey?_keyText`, `readPath?_pathText` — written keys are read back.
* `Plain.read` — so are plain values.
-/

namespace QueryPhrase.Toml

/-! ## Keys -/

theorem ValueEnd.noQuote {rest : Text} (h : ValueEnd rest) : NoQuote rest := by
  constructor <;>
  · intro hHead
    exact absurd (h _ hHead) (by decide)

/-- A text that a key does not go on in. -/
def KeyEnd (rest : Text) : Prop :=
  ∀ c, rest.head? = some c → isBareChar c = false ∧ c ≠ '"' ∧ c ≠ '\''

theorem KeyEnd.noQuote {rest : Text} (h : KeyEnd rest) : NoQuote rest :=
  ⟨fun hHead => (h _ hHead).2.1 rfl, fun hHead => (h _ hHead).2.2 rfl⟩

theorem readKey?_bare {key rest : Text} (hKey : isBareKey key = true)
    (hRest : KeyEnd rest) : readKey? (key ++ rest) = some (key, rest) := by
  have hChars : ∀ c ∈ key, isBareChar c = true := by
    simp only [isBareKey, Bool.and_eq_true, List.all_eq_true] at hKey
    exact hKey.2
  obtain ⟨first, others, rfl⟩ : ∃ first others, key = first :: others := by
    cases key with
    | nil => cases hKey
    | cons first others => exact ⟨first, others, rfl⟩
  have hFront : (first :: others ++ rest).takeWhile isBareChar = first :: others :=
    Text.takeWhile_append hChars fun c hHead => (hRest c hHead).1
  have hFirst : isBareChar first = true := hChars first (List.mem_cons_self ..)
  have hQuote : first ≠ '"' ∧ first ≠ '\'' := by
    constructor <;>
    · rintro rfl
      exact absurd hFirst (by decide)
  unfold readKey?
  split
  · rename_i hEq
    exact absurd (List.cons.inj hEq).1 hQuote.1
  · rename_i hEq
    exact absurd (List.cons.inj hEq).1 hQuote.2
  · rename_i hEq
    exact absurd (List.cons.inj hEq).1 hQuote.1
  · rename_i hEq
    exact absurd (List.cons.inj hEq).1 hQuote.2
  · rw [hFront]
    simp

/-- A key that begins with a quote, but not with three, is read as a text. -/
theorem readKey?_quoted {quote : Char} {after : Text}
    (hQuote : quote = '"' ∨ quote = '\'')
    (h : ∀ more, after ≠ quote :: quote :: more) :
    readKey? (quote :: after) = readQuoted? (quote :: after) := by
  rcases hQuote with rfl | rfl
  · unfold readKey?
    split
    · rename_i hEq
      exact absurd (List.cons.inj hEq).2 (h _)
    · rename_i hEq
      exact absurd (List.cons.inj hEq).1 (by decide)
    · rfl
    · rfl
    · rename_i hDouble _
      exact absurd rfl (hDouble _)
  · unfold readKey?
    split
    · rename_i hEq
      exact absurd (List.cons.inj hEq).1 (by decide)
    · rename_i hEq
      exact absurd (List.cons.inj hEq).2 (h _)
    · rfl
    · rfl
    · rename_i _ hSingle
      exact absurd rfl (hSingle _)

theorem readKey?_doubleQuoted (key : Text) {rest : Text}
    (h : rest.head? ≠ some '"') :
    readKey? (doubleQuoted key ++ rest) = some (key, rest) := by
  have hStart := append_quote_ne (head?_flatMap_escapedChar key) h
  rw [← readQuoted?_doubleQuoted key h, doubleQuoted_append,
    readKey?_quoted (.inl rfl) hStart]

theorem readKey?_singleQuoted {key rest : Text}
    (hKey : ∀ c ∈ key, isPlain c = true ∧ c ≠ '\'')
    (h : rest.head? ≠ some '\'') :
    readKey? (singleQuoted key ++ rest) = some (key, rest) := by
  have hStart := append_quote_ne (head?_ne_of_forall hKey) h
  rw [← readQuoted?_singleQuoted hKey h, singleQuoted_append,
    readKey?_quoted (.inr rfl) hStart]

/-- **A written key is read back.** -/
theorem readKey?_keyText (key : Text) {rest : Text} (h : KeyEnd rest) :
    readKey? (keyText key ++ rest) = some (key, rest) := by
  rw [keyText]
  split
  · rename_i hBare
    exact readKey?_bare hBare h
  split
  · exact readKey?_doubleQuoted key h.noQuote.1
  split
  · rename_i hSingle
    simp only [Bool.and_eq_true, Bool.not_eq_true'] at hSingle
    exact readKey?_singleQuoted (plain_of_singleQuoted hSingle.1.1 hSingle.1.2
      hSingle.2) h.noQuote.2
  · exact readKey?_doubleQuoted key h.noQuote.1

/-- What a key is written with at its front. -/
theorem head_keyText (key : Text) : ∃ c rest, keyText key = c :: rest ∧
    (isBareChar c = true ∨ c = '"' ∨ c = '\'') := by
  rw [keyText]
  split
  · rename_i hBare
    cases key with
    | nil => cases hBare
    | cons c rest =>
        simp only [isBareKey, Bool.and_eq_true, List.all_cons] at hBare
        exact ⟨c, rest, rfl, .inl hBare.2.1⟩
  split
  · exact ⟨'"', _, rfl, .inr (.inl rfl)⟩
  split
  · exact ⟨'\'', _, rfl, .inr (.inr rfl)⟩
  · exact ⟨'"', _, rfl, .inr (.inl rfl)⟩

/-! ## Gaps -/

/-- A character that no blank, line break or comment begins with. -/
def Solid (c : Char) : Prop := c ∉ [' ', '\t', '\n', '\r', '#']

instance (c : Char) : Decidable (Solid c) :=
  inferInstanceAs (Decidable (c ∉ [' ', '\t', '\n', '\r', '#']))

theorem dropBlanks_cons {c : Char} (h : Solid c) (rest : Text) :
    dropBlanks (c :: rest) = c :: rest := by
  simp only [Solid, List.mem_cons, not_or] at h
  simp [dropBlanks, h]

theorem skipGap?_cons {c : Char} (h : Solid c) (rest : Text) :
    skipGap? false (c :: rest) = some (c :: rest) := by
  simp only [Solid, List.mem_cons, not_or] at h
  simp [skipGap?, h]

theorem skipGap?_spaces (count : Nat) (rest : Text) :
    skipGap? false (Text.spaces count ++ rest) = skipGap? false rest := by
  induction count with
  | zero => rfl
  | succ count ih =>
      rw [← ih]
      simp [Text.spaces, List.replicate_succ, skipGap?]

/-- What no key begins with is none of the characters that one begins with. -/
theorem ne_of_keyFront {c d : Char}
    (h : isBareChar c = true ∨ c = '"' ∨ c = '\'')
    (hOther : isBareChar d = false ∧ d ≠ '"' ∧ d ≠ '\'') : c ≠ d := by
  rintro rfl
  rw [hOther.1] at h
  simp [hOther.2] at h

theorem solid_keyText {c : Char}
    (h : isBareChar c = true ∨ c = '"' ∨ c = '\'') : Solid c := by
  simp only [Solid, List.mem_cons, List.not_mem_nil, or_false, not_or]
  exact ⟨ne_of_keyFront h (by decide), ne_of_keyFront h (by decide),
    ne_of_keyFront h (by decide), ne_of_keyFront h (by decide),
    ne_of_keyFront h (by decide)⟩

/-! ## Paths of keys -/

/-- A text that a path of keys does not go on in. -/
def PathEnd (rest : Text) : Prop :=
  KeyEnd rest ∧ (dropBlanks rest).head? ≠ some '.'

theorem pathText_nil (key : Text) : pathText [] key = keyText key := by
  simp [pathText, Text.joined_singleton]

theorem pathText_cons (parent : Text) (parents : List Text) (key : Text) :
    pathText (parent :: parents) key =
      keyText parent ++ '.' :: pathText parents key := by
  obtain ⟨next, others, hNext⟩ : ∃ next others,
      (parents ++ [key]).map keyText = next :: others := by
    cases parents <;> simp
  rw [pathText, List.cons_append, List.map_cons, hNext, Text.joined_cons_cons,
    ← hNext]
  rfl

theorem dropBlanks_keyText (key rest : Text) :
    dropBlanks (keyText key ++ rest) = keyText key ++ rest := by
  obtain ⟨c, more, hKey, hFront⟩ := head_keyText key
  rw [hKey, List.cons_append]
  exact dropBlanks_cons (solid_keyText hFront) _

/-- **A written path of keys is read back.** -/
theorem readPath?_pathText (parents : List Text) (key : Text) {depth : Nat}
    (hDepth : parents.length < depth) {rest : Text} (h : PathEnd rest) :
    readPath? depth (pathText parents key ++ rest) =
      some (parents, key, dropBlanks rest) := by
  obtain ⟨depth, rfl⟩ := Nat.exists_eq_succ_of_ne_zero (by omega : depth ≠ 0)
  induction parents generalizing depth with
  | nil =>
      rw [pathText_nil, readPath?, dropBlanks_keyText, readKey?_keyText key h.1]
      have hEnd := h.2
      simp only [Option.bind_eq_bind, Option.bind_some]
      split
      · rename_i hDot
        rw [hDot] at hEnd
        exact absurd rfl hEnd
      · rfl
  | cons parent parents ih =>
      have hDot : KeyEnd ('.' :: (pathText parents key ++ rest)) := by
        intro c hHead
        obtain rfl : '.' = c := by simpa using hHead
        decide
      rw [List.length_cons] at hDepth
      obtain ⟨depth, rfl⟩ := Nat.exists_eq_succ_of_ne_zero (by omega : depth ≠ 0)
      have hRest := ih depth (by omega)
      rw [pathText_cons, List.append_assoc, List.cons_append, readPath?,
        dropBlanks_keyText, readKey?_keyText parent hDot]
      simp only [Option.bind_eq_bind, Option.bind_some,
        dropBlanks_cons (by decide : Solid '.')]
      rw [hRest]
      rfl

/-! ## Values -/

/-- Texts, natural numbers and lists of such values, at most `depth` levels deep. -/
inductive Plain : Nat → Value → Prop
  | text (depth : Nat) (value : Text) : Plain depth (.text value)
  | int (depth : Nat) (n : Nat) (fits : n < 1 <<< 128) : Plain depth (.int n)
  | list (depth : Nat) (items : List Value)
      (plain : ∀ item ∈ items, Plain depth item) : Plain (depth + 1) (.list items)

theorem head_quoted (text : Text) : ∃ c rest, quoted text = c :: rest ∧
    (c = '"' ∨ c = '\'') := by
  rw [quoted]
  split
  · exact ⟨'"', _, rfl, .inl rfl⟩
  split
  · exact ⟨'\'', _, rfl, .inr rfl⟩
  split
  · exact ⟨'"', _, rfl, .inl rfl⟩
  split
  · exact ⟨'\'', _, rfl, .inr rfl⟩
  split
  · exact ⟨'"', _, rfl, .inl rfl⟩
  · exact ⟨'"', _, rfl, .inl rfl⟩

theorem head_ofNat (n : Nat) : ∃ c rest, Text.ofNat n = c :: rest ∧
    c.isDigit = true := by
  obtain ⟨c, rest, hCons⟩ :=
    List.exists_cons_of_ne_nil (Nat.toDigits_ne_nil (n := n) (b := 10))
  exact ⟨c, rest, hCons, isDigit_of_mem_ofNat (hCons ▸ List.mem_cons_self ..)⟩

theorem valueText_int (n : Nat) : valueText (.int n) = Text.ofNat n := by
  rw [valueText]
  rfl

/-- A written value does not begin with what gaps are made of, and not with a
closing bracket. -/
theorem Plain.head {depth : Nat} {value : Value} (h : Plain depth value) :
    ∃ c rest, valueText value = c :: rest ∧ Solid c ∧ c ≠ ']' := by
  cases h with
  | text _ value =>
      obtain ⟨c, rest, hText, hQuote⟩ := head_quoted value
      refine ⟨c, rest, by rw [valueText, hText], ?_⟩
      rcases hQuote with rfl | rfl <;> decide
  | int _ n =>
      obtain ⟨c, rest, hText, hDigit⟩ := head_ofNat n
      refine ⟨c, rest, by rw [valueText_int, hText], ?_⟩
      have hFront : decide (Solid c ∧ c ≠ ']') = true :=
        forall_isDigit (p := fun d => decide (Solid d ∧ d ≠ ']')) (by decide) hDigit
      exact of_decide_eq_true hFront
  | list _ items =>
      rw [valueText, bracketed.eq_def]
      split <;> exact ⟨'[', _, rfl, by decide, by decide⟩

theorem readValue?_quote {fuel depth : Nat} {c : Char}
    (h : c = '"' ∨ c = '\'') (rest : Text) :
    readValue? (fuel + 1) depth (c :: rest) =
      (readQuoted? (c :: rest)).map fun found => (.text found.1, found.2) := by
  rcases h with rfl | rfl
  · rw [readValue?]
    cases readQuoted? ('"' :: rest) <;> simp
  · rw [readValue?]
    cases readQuoted? ('\'' :: rest) <;> simp

theorem readValue?_digit {fuel depth : Nat} {c : Char} (h : c.isDigit = true)
    (rest : Text) :
    readValue? (fuel + 1) depth (c :: rest) = readScalar? (c :: rest) := by
  have hNone : ∀ d : Char, d.isDigit = false → c ≠ d := by
    rintro d hOther rfl
    rw [h] at hOther
    cases hOther
  rw [readValue?.eq_def]
  simp [hNone '[' (by decide), hNone '\x7b' (by decide), hNone '"' (by decide),
    hNone '\'' (by decide)]

theorem readValue?_list (fuel depth : Nat) (rest : Text) :
    readValue? (fuel + 1) (depth + 1) ('[' :: rest) =
      ((skipGap? false rest).bind (readItems? fuel depth)).map fun found =>
        (.list found.1, found.2) := by
  rw [readValue?]
  cases skipGap? false rest with
  | none => simp
  | some after => cases hItems : readItems? fuel depth after <;> simp [hItems]

theorem readItems?_end (fuel depth : Nat) (rest : Text) :
    readItems? (fuel + 1) depth (']' :: rest) = some ([], rest) := by
  rw [readItems?]

section

variable {fuel depth : Nat} {item : Value} {c : Char} {front after rest : Text}
  (hFirst : c ≠ ']')

include hFirst

/-- The last item of a list is read. -/
theorem readItems?_last
    (hItem : readValue? fuel depth (c :: front) = some (item, ']' :: rest)) :
    readItems? (fuel + 1) depth (c :: front) = some ([item], rest) := by
  rw [readItems?, hItem]
  · simp [skipGap?]
  · rintro more hEq
    exact hFirst (List.cons.inj hEq).1

/-- An item of a list is read, and then the others. -/
theorem readItems?_more {items : List Value}
    (hItem : readValue? fuel depth (c :: front) = some (item, ',' :: after))
    (hItems : (skipGap? false after).bind (readItems? fuel depth) =
      some (items, rest)) :
    readItems? (fuel + 1) depth (c :: front) = some (item :: items, rest) := by
  obtain ⟨next, hNext, hRead⟩ := Option.bind_eq_some_iff.mp hItems
  rw [readItems?, hItem]
  · simp [skipGap?, hNext, hRead]
  · rintro more hEq
    exact hFirst (List.cons.inj hEq).1

end

theorem itemTexts_eq (items : List Value) :
    itemTexts items = items.map valueText := by
  induction items with
  | nil => rw [itemTexts, List.map_nil]
  | cons item rest ih => rw [itemTexts, ih, List.map_cons]

theorem itemLine_append (item rest : Text) :
    itemLine item ++ rest = Text.spaces 4 ++ (item ++ ',' :: '\n' :: rest) := by
  simp [itemLine]

/-- The reader of values reads what was written for a value, whatever it nests. -/
def ReadsBack (depth : Nat) (value : Value) : Prop :=
  ∀ (fuel : Nat) (rest : Text), (valueText value).length < fuel → ValueEnd rest →
    readValue? fuel depth (valueText value ++ rest) = some (value, rest)

/-- Items on lines of their own are read back if each of them is. -/
theorem readItems?_lines {depth : Nat} {items : List Value}
    (hPlain : ∀ item ∈ items, Plain depth item)
    (hRead : ∀ item ∈ items, ReadsBack depth item) {fuel : Nat}
    (hFuel : ((items.map valueText).flatMap itemLine).length < fuel) (rest : Text) :
    (skipGap? false ((items.map valueText).flatMap itemLine ++ ']' :: rest)).bind
      (readItems? fuel depth) = some (items, rest) := by
  induction items generalizing fuel with
  | nil =>
      obtain ⟨fuel, rfl⟩ := Nat.exists_eq_succ_of_ne_zero (by omega : fuel ≠ 0)
      rw [List.map_nil, List.flatMap_nil, List.nil_append,
        skipGap?_cons (by decide), Option.bind_some]
      exact readItems?_end fuel depth rest
  | cons item others ih =>
      rw [List.forall_mem_cons] at hPlain hRead
      obtain ⟨c, front, hText, hSolid, hFirst⟩ := hPlain.1.head
      obtain ⟨fuel, rfl⟩ := Nat.exists_eq_succ_of_ne_zero (by omega : fuel ≠ 0)
      rw [List.map_cons, List.flatMap_cons, itemLine_append] at hFuel
      simp only [List.length_append, List.length_cons] at hFuel
      have hItems := ih hPlain.2 hRead.2 (by omega : _ < fuel)
      rw [List.map_cons, List.flatMap_cons, List.append_assoc, itemLine_append,
        skipGap?_spaces]
      -- the item is read whatever stands behind its comma
      generalize (others.map valueText).flatMap itemLine ++ ']' :: rest = lines
        at hItems ⊢
      have hItem := hRead.1 fuel (',' :: '\n' :: lines) (by omega)
        (fun d hd => .inr (.inl (by simpa using hd.symm)))
      rw [hText, List.cons_append] at hItem ⊢
      rw [skipGap?_cons hSolid, Option.bind_some]
      exact readItems?_more hFirst hItem hItems

theorem two_le_length_bracketed (items : List Text) :
    2 ≤ (bracketed items).length := by
  rw [bracketed.eq_def]
  split <;> simp

/-- Items in brackets are read back if each of them is: none, one on the same line,
or each on a line of its own. -/
theorem readItems?_bracketed {depth : Nat} {items : List Value}
    (hPlain : ∀ item ∈ items, Plain depth item)
    (hRead : ∀ item ∈ items, ReadsBack depth item) {fuel : Nat}
    (hFuel : (bracketed (items.map valueText)).length < fuel + 2) (rest : Text) :
    ∃ inner, bracketed (items.map valueText) ++ rest = '[' :: inner ∧
      (skipGap? false inner).bind (readItems? (fuel + 1) depth) =
        some (items, rest) := by
  cases items with
  | nil =>
      refine ⟨']' :: rest, rfl, ?_⟩
      rw [skipGap?_cons (by decide), Option.bind_some, readItems?_end]
  | cons item others =>
      cases others with
      | nil =>
          have hOne := List.mem_singleton_self item
          obtain ⟨c, front, hText, hSolid, hFirst⟩ := (hPlain item hOne).head
          have hForm : bracketed ([item].map valueText) =
              '[' :: (valueText item ++ [']']) := rfl
          rw [hForm] at hFuel ⊢
          simp only [List.length_cons, List.length_append] at hFuel
          have hItem := hRead item hOne fuel (']' :: rest) (by omega)
            (fun d hd => .inr (.inr (by simpa using hd.symm)))
          refine ⟨valueText item ++ ']' :: rest, by simp, ?_⟩
          rw [hText, List.cons_append] at hItem ⊢
          rw [skipGap?_cons hSolid, Option.bind_some, readItems?_last hFirst hItem]
      | cons next more =>
          have hForm : bracketed ((item :: next :: more).map valueText) =
              '[' :: '\n' :: (((item :: next :: more).map valueText).flatMap
                itemLine ++ [']']) := rfl
          rw [hForm] at hFuel ⊢
          simp only [List.length_cons, List.length_append] at hFuel
          refine ⟨'\n' :: (((item :: next :: more).map valueText).flatMap
            itemLine ++ ']' :: rest), by simp, ?_⟩
          rw [skipGap?]
          exact readItems?_lines hPlain hRead (by omega) rest

/-- **A plain value is read back** up to where it ends. -/
theorem Plain.read {depth : Nat} {value : Value} (h : Plain depth value) :
    ReadsBack depth value := by
  induction h with
  | text depth value =>
      intro fuel rest hFuel hRest
      obtain ⟨c, front, hText, hQuote⟩ := head_quoted value
      obtain ⟨fuel, rfl⟩ := Nat.exists_eq_succ_of_ne_zero (by omega : fuel ≠ 0)
      have hBack : readQuoted? (quoted value ++ rest) = some (value, rest) :=
        readQuoted?_quoted value hRest.noQuote
      rw [valueText]
      rw [hText, List.cons_append] at hBack ⊢
      rw [readValue?_quote hQuote, hBack]
      rfl
  | int depth n fits =>
      intro fuel rest hFuel hRest
      obtain ⟨c, front, hText, hDigit⟩ := head_ofNat n
      obtain ⟨fuel, rfl⟩ := Nat.exists_eq_succ_of_ne_zero (by omega : fuel ≠ 0)
      have hBack := readScalar?_ofNat fits hRest
      rw [valueText_int]
      rw [hText, List.cons_append] at hBack ⊢
      rw [readValue?_digit hDigit, hBack]
  | list depth items plain ih =>
      intro fuel rest hFuel hRest
      have hLong := two_le_length_bracketed (items.map valueText)
      rw [valueText, itemTexts_eq] at hFuel ⊢
      -- the brackets take up the fuel for the list itself and for its end
      obtain ⟨fuel, rfl⟩ := Nat.exists_eq_add_of_le' (by omega : 2 ≤ fuel)
      obtain ⟨inner, hForm, hItems⟩ := readItems?_bracketed plain ih hFuel rest
      rw [hForm, readValue?_list, hItems]
      rfl

end QueryPhrase.Toml
