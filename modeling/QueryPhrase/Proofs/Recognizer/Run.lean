import QueryPhrase.Recognizer.Unit

/-!
# What a unit holds after a run

A unit that was handed a run, or has read one, holds a function of that run and
of where it starts. Four sorts of unit hold the run itself. A field term holds
it cut at the first colon. A matcher triple holds it whole, next to its quotes
and to how far the triple has come.

## Main results

* `FieldTerm.read_of_not_mem`, `FieldTerm.read_colon`, `FieldTerm.read_value` —
  the three shapes of a field term.
* `MatcherTriple.read_eq` — a matcher triple, one field at a time.
* `GrammarUnit.seeded_word` and the like — the six sorts of unit.
-/

namespace QueryPhrase

open Recognizer

/-! ## Buffers -/

namespace TokenBuffer

theorem append_ofText (start : Nat) (text : Text) (c : Char) :
    (ofText start text).append c = ofText start (text ++ [c]) := by
  simp [ofText, append]

/-- A buffer that reads a run has the run at its end. -/
theorem foldl_append_ofText (start : Nat) (run : Text) :
    ∀ text : Text,
      run.foldl append (ofText start text) = ofText start (text ++ run) := by
  induction run with
  | nil => intro text; simp
  | cons c rest ih =>
      intro text
      rw [List.foldl_cons, append_ofText, ih, List.append_assoc]
      rfl

theorem foldl_append_empty (start : Nat) (run : Text) :
    run.foldl append (empty start) = ofText start run :=
  foldl_append_ofText start run []

@[simp] theorem isEmpty_ofText (start : Nat) (text : Text) :
    (ofText start text).isEmpty = text.isEmpty := by
  cases text <;> rfl

theorem token?_ofText (start : Nat) (text : Text) (kind : TokenKind) :
    (ofText start text).token? kind =
      if text = [] then none else some (Token.leaf kind text start) := by
  cases text <;> simp [token?, ofText, isEmpty]

end TokenBuffer

/-! ## Field terms -/

namespace FieldTerm

/-- A field term that has read a run from `start` on. -/
def read (start : Nat) (run : Text) : FieldTerm :=
  run.foldl append (empty start)

/-- Before the first colon everything is the field name. -/
theorem read_of_not_mem {start : Nat} {run : Text} (hColon : ':' ∉ run) :
    read start run =
      ⟨.field, false, .ofText start run, .empty start, .empty start⟩ := by
  have hFold : ∀ text : Text, run.foldl append
      ⟨.field, false, .ofText start text, .empty start, .empty start⟩ =
        ⟨.field, false, .ofText start (text ++ run), .empty start,
          .empty start⟩ := by
    induction run with
    | nil => intro text; simp
    | cons c rest ih =>
        intro text
        have hHead : ':' ≠ c := List.ne_of_not_mem_cons hColon
        have hRest : ':' ∉ rest := List.not_mem_of_not_mem_cons hColon
        have hStep : append
            ⟨.field, false, .ofText start text, .empty start, .empty start⟩ c =
              ⟨.field, false, .ofText start (text ++ [c]), .empty start,
                .empty start⟩ := by
          simp only [append, if_neg (Ne.symm hHead), TokenBuffer.append_ofText]
        rw [List.foldl_cons, hStep, ih hRest, List.append_assoc]
        rfl
  exact hFold []

/-- The first colon ends the field name and is the delimiter. -/
theorem read_colon {start : Nat} {name : Text} (hColon : ':' ∉ name) :
    read start (name ++ [':']) =
      ⟨.delimiter, false, .ofText start name,
        .ofText (start + name.length) [':'], .empty start⟩ := by
  change (name ++ [':']).foldl append (empty start) = _
  rw [List.foldl_append]
  change append (read start name) ':' = _
  rw [read_of_not_mem hColon]
  simp [append, TokenBuffer.next, TokenBuffer.ofText, TokenBuffer.empty,
    TokenBuffer.append]

/-- Once the value has begun, it takes every character. -/
private theorem foldl_append_value (quoted : Bool)
    (field delimiter : TokenBuffer) (start : Nat) (text : Text) :
    ∀ seen : Text,
      text.foldl append ⟨.value, quoted, field, delimiter, .ofText start seen⟩ =
        ⟨.value, quoted, field, delimiter, .ofText start (seen ++ text)⟩ := by
  induction text with
  | nil => intro seen; simp
  | cons c rest ih =>
      intro seen
      have hStep :
          append ⟨.value, quoted, field, delimiter, .ofText start seen⟩ c =
            ⟨.value, quoted, field, delimiter,
              .ofText start (seen ++ [c])⟩ := by
        simp only [append, TokenBuffer.append_ofText]
      rw [List.foldl_cons, hStep, ih, List.append_assoc]
      rfl

/-- Everything after the first colon is the value, further colons too. -/
theorem read_value {start : Nat} {name : Text} (hColon : ':' ∉ name) (c : Char)
    (text : Text) :
    read start (name ++ ':' :: c :: text) =
      ⟨.value, c == '"', .ofText start name,
        .ofText (start + name.length) [':'],
        .ofText (start + name.length + 1) (c :: text)⟩ := by
  have hSplit : name ++ ':' :: c :: text = (name ++ [':']) ++ [c] ++ text := by
    simp
  rw [read, hSplit, List.foldl_append, List.foldl_append]
  change text.foldl append (append (read start (name ++ [':'])) c) = _
  rw [read_colon hColon]
  exact foldl_append_value (c == '"') _ _ (start + name.length + 1) text [c]

/-- Without a colon there is nothing but the field name. -/
theorem children_read_of_not_mem {start : Nat} {run : Text} (hColon : ':' ∉ run) :
    (read start run).children = MatcherTriple.leaves [(.field, run)] start := by
  rw [read_of_not_mem hColon]
  cases run with
  | nil => rfl
  | cons c rest => rfl

/-- A term without a value has two parts, of which the first may be missing. -/
theorem children_read_colon {start : Nat} {name : Text} (hColon : ':' ∉ name) :
    (read start (name ++ [':'])).children =
      MatcherTriple.leaves [(.field, name), (.delimiter, [':'])] start := by
  rw [read_colon hColon]
  cases name with
  | nil => rfl
  | cons c rest => rfl

/-- A term with a value has three parts, of which the first may be missing. -/
theorem children_read_value {start : Nat} {name : Text} (hColon : ':' ∉ name)
    (c : Char) (text : Text) :
    (read start (name ++ ':' :: c :: text)).children =
      MatcherTriple.leaves
        [(.field, name), (.delimiter, [':']), (.value, c :: text)] start := by
  rw [read_value hColon]
  cases name with
  | nil => rfl
  | cons d rest => rfl

end FieldTerm

/-! ## Matcher triples -/

namespace MatcherTriple

/-- A matcher triple that has read a run from `start` on. -/
def read (start : Nat) (run : Text) : MatcherTriple :=
  run.foldl append (empty start)

/-- The stage and the second word after a run. -/
def progress (run : Text) : Stage × Text :=
  run.foldl (fun reached c => advance reached.1 reached.2 c) (.column, [])

theorem progress_append_singleton (run : Text) (c : Char) :
    progress (run ++ [c]) = advance (progress run).1 (progress run).2 c := by
  rw [progress, List.foldl_append]
  rfl

theorem read_eq (start : Nat) (run : Text) :
    read start run =
      ⟨.ofText start run, (progress run).1, (progress run).2,
        QuoteState.ofText run⟩ := by
  have hFold : ∀ (text : Text) (t : MatcherTriple),
      text.foldl append t =
        ⟨text.foldl TokenBuffer.append t.buffer,
          (text.foldl (fun reached c => advance reached.1 reached.2 c)
            (t.stage, t.operator)).1,
          (text.foldl (fun reached c => advance reached.1 reached.2 c)
            (t.stage, t.operator)).2,
          text.foldl QuoteState.push t.quotes⟩ := by
    intro text
    induction text with
    | nil => intro t; rfl
    | cons c rest ih => intro t; rw [List.foldl_cons, ih]; rfl
  rw [read, hFold]
  simp only [empty, TokenBuffer.foldl_append_empty]
  rfl

end MatcherTriple

/-! ## The six sorts -/

namespace GrammarUnit

variable (start : Nat) (run : Text)

/-- A sort of unit whose state is built up by reading ends in what that state is
after the run. -/
private theorem foldl_append_eq {σ : Type} (sort : σ → GrammarUnit)
    (add : σ → Char → σ)
    (hAdd : ∀ state c, append (sort state) c = sort (add state c)) :
    ∀ state : σ,
      run.foldl append (sort state) = sort (run.foldl add state) := by
  induction run with
  | nil => intro state; rfl
  | cons c rest ih =>
      intro state
      rw [List.foldl_cons, hAdd, ih]
      rfl

@[simp] theorem seeded_word (buffer : TokenBuffer) :
    seeded (word buffer) start run = word (.ofText start run) := by
  rw [← TokenBuffer.foldl_append_empty]
  exact foldl_append_eq run word TokenBuffer.append (fun _ _ => rfl) _

@[simp] theorem seeded_whitespace (buffer : TokenBuffer) :
    seeded (whitespace buffer) start run = whitespace (.ofText start run) := by
  rw [← TokenBuffer.foldl_append_empty]
  exact foldl_append_eq run whitespace TokenBuffer.append (fun _ _ => rfl) _

@[simp] theorem seeded_operator (buffer : TokenBuffer) :
    seeded (operator buffer) start run = operator (.ofText start run) := by
  rw [← TokenBuffer.foldl_append_empty]
  exact foldl_append_eq run operator TokenBuffer.append (fun _ _ => rfl) _

@[simp] theorem seeded_separator (buffer : TokenBuffer) :
    seeded (separator buffer) start run = separator (.ofText start run) := by
  rw [← TokenBuffer.foldl_append_empty]
  exact foldl_append_eq run separator TokenBuffer.append (fun _ _ => rfl) _

@[simp] theorem seeded_field (term : FieldTerm) :
    seeded (field term) start run = field (.read start run) :=
  foldl_append_eq run field FieldTerm.append (fun _ _ => rfl) _

@[simp] theorem seeded_matcher (triple : MatcherTriple) :
    seeded (matcher triple) start run = matcher (.read start run) :=
  foldl_append_eq run matcher MatcherTriple.append (fun _ _ => rfl) _

end GrammarUnit

end QueryPhrase
