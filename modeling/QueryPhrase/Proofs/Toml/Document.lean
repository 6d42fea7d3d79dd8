import QueryPhrase.Proofs.Toml.Reader

/-!
# Documents are read back

A document is written statement by statement, each header with its assignments
behind it, and a blank line in front of every header but the first. The reader takes
one statement after the other and does not mind blank lines, so it finds the
statements that were written; and they make up the document.

## Main definitions

* `Document.statements` — what the lines of a document say.
* `PlainStatement` — a statement with a plain value, and keys not too deep.

## Main results

* `readStatement?_statementText` — a written statement is read back.
* `Document.ofStatements_statements` — its statements make up a document.
* `Document.read?_documentText` — a document of plain statements is read back.
-/

namespace QueryPhrase.Toml

/-! ## Statements -/

def headerText (item : Bool) (parents : List Text) (key : Text) : Text :=
  (if item then "[[" else "[") ++ pathText parents key ++
    (if item then "]]\n" else "]\n")

def statementText : Statement → Text
  | .assign assignment => assignmentText assignment
  | .opening item parents key => headerText item parents key

/-- A statement with a plain value, and keys not too deep. -/
def PlainStatement : Statement → Prop
  | .assign assignment =>
    Plain deepest assignment.value ∧ assignment.parents.length < deepest
  | .opening _ parents _ => parents.length < deepest

/-- A path of keys begins as a key does. -/
theorem head_pathText (parents : List Text) (key : Text) :
    ∃ c rest, pathText parents key = c :: rest ∧
      (isBareChar c = true ∨ c = '"' ∨ c = '\'') := by
  cases parents with
  | nil =>
      rw [pathText_nil]
      exact head_keyText key
  | cons parent parents =>
      obtain ⟨c, rest, hKey, hFirst⟩ := head_keyText parent
      exact ⟨c, _, by rw [pathText_cons, hKey]; rfl, hFirst⟩

theorem keyEnd_cons {c : Char} (h : isBareChar c = false ∧ c ≠ '"' ∧ c ≠ '\'')
    (rest : Text) : KeyEnd (c :: rest) := by
  intro d hHead
  obtain rfl : c = d := by simpa using hHead
  exact h

theorem pathEnd_equals (rest : Text) : PathEnd (' ' :: '=' :: rest) :=
  ⟨keyEnd_cons (by decide) _, by simp [dropBlanks]⟩

theorem pathEnd_bracket (rest : Text) : PathEnd (']' :: rest) :=
  ⟨keyEnd_cons (by decide) _, by simp [dropBlanks]⟩

theorem valueEnd_break (rest : Text) : ValueEnd ('\n' :: rest) :=
  fun _ hHead => .inl (by simpa using hHead.symm)

theorem assignmentText_append (assignment : Assignment) (rest : Text) :
    assignmentText assignment ++ rest =
      pathText assignment.parents assignment.key ++
        (' ' :: '=' :: ' ' :: (valueText assignment.value ++ '\n' :: rest)) := by
  simp [assignmentText]

/-- **A written assignment is read back.** -/
theorem readAssignment?_assignmentText {assignment : Assignment} {depth fuel : Nat}
    (hValue : Plain depth assignment.value)
    (hParents : assignment.parents.length < deepest)
    (hFuel : (valueText assignment.value).length < fuel) (rest : Text) :
    readAssignment? (fuel + 1) depth (assignmentText assignment ++ rest) =
      some (assignment, '\n' :: rest) := by
  have hRead := hValue.read fuel ('\n' :: rest) hFuel (valueEnd_break rest)
  obtain ⟨c, front, hText, hSolid, -⟩ := hValue.head
  rw [hText, List.cons_append] at hRead
  rw [assignmentText_append, hText, List.cons_append, readAssignment?,
    readPath?_pathText _ _ hParents (pathEnd_equals _)]
  have hEquals : dropBlanks (' ' :: '=' :: ' ' :: c :: (front ++ '\n' :: rest)) =
      '=' :: ' ' :: c :: (front ++ '\n' :: rest) := by simp [dropBlanks]
  have hBlank : dropBlanks (' ' :: c :: (front ++ '\n' :: rest)) =
      c :: (front ++ '\n' :: rest) := dropBlanks_cons hSolid _
  simp [hEquals, hBlank, hRead]

theorem headerText_append (item : Bool) (parents : List Text) (key rest : Text) :
    headerText item parents key ++ rest =
      if item then
        '[' :: '[' :: (pathText parents key ++ ']' :: ']' :: '\n' :: rest)
      else '[' :: (pathText parents key ++ ']' :: '\n' :: rest) := by
  cases item <;> simp [headerText]

/-- **A written statement is read back**, to the end of its line. -/
theorem readStatement?_statementText {statement : Statement}
    (h : PlainStatement statement) (rest : Text) :
    readStatement? (statementText statement ++ rest) =
      some (statement, '\n' :: rest) := by
  cases statement with
  | assign assignment =>
      obtain ⟨hValue, hParents⟩ := h
      have hFuel : (valueText assignment.value).length <
          (assignmentText assignment ++ rest).length := by
        rw [assignmentText_append]
        simp only [List.length_append, List.length_cons]
        omega
      have hRead := readAssignment?_assignmentText hValue hParents hFuel rest
      obtain ⟨c, front, hPath, hFirst⟩ :=
        head_pathText assignment.parents assignment.key
      have hBracket : c ≠ '[' := ne_of_keyFront hFirst (by decide)
      rw [statementText]
      rw [assignmentText_append, hPath, List.cons_append] at hRead ⊢
      rw [readStatement?, hRead]
      · rfl
      · rintro more hEq
        exact hBracket (List.cons.inj hEq).1
      · rintro more hEq
        exact hBracket (List.cons.inj hEq).1
  | opening item parents key =>
      rw [statementText, headerText_append]
      cases item with
      | true =>
          rw [if_pos rfl, readStatement?, readHeader?,
            readPath?_pathText _ _ h (pathEnd_bracket _)]
          rfl
      | false =>
          obtain ⟨c, front, hPath, hFirst⟩ := head_pathText parents key
          have hBracket : c ≠ '[' := ne_of_keyFront hFirst (by decide)
          have hRead := readPath?_pathText parents key h
            (pathEnd_bracket ('\n' :: rest))
          rw [if_neg Bool.false_ne_true]
          rw [hPath, List.cons_append] at hRead ⊢
          rw [readStatement?, readHeader?, hRead]
          · rfl
          · rintro more hEq
            exact hBracket (List.cons.inj hEq).1

/-! ## Documents -/

/-- What the lines of a section say. -/
def Section.statements (part : Section) : List Statement :=
  .opening part.item part.parents part.key :: part.assignments.map .assign

/-- What the lines of a document say, in blocks with a blank line between them. -/
def Document.blocks (document : Document) : List (List Statement) :=
  (if document.top.isEmpty then [] else [document.top.map .assign]) ++
    document.sections.map Section.statements

def Document.statements (document : Document) : List Statement :=
  document.blocks.flatten

theorem Document.ofStatements_assign (assignments : List Assignment)
    (rest : List Statement) :
    Document.ofStatements (assignments.map .assign ++ rest) =
      { Document.ofStatements rest with
        top := assignments ++ (Document.ofStatements rest).top } := by
  induction assignments with
  | nil => rfl
  | cons assignment others ih =>
      rw [List.map_cons, List.cons_append, Document.ofStatements, ih]
      rfl

/-- **The statements of a document** make it up. -/
theorem Document.ofStatements_statements (document : Document) :
    Document.ofStatements document.statements = document := by
  have hSections : ∀ sections : List Section,
      Document.ofStatements (sections.map Section.statements).flatten =
        ⟨[], sections⟩ := by
    intro sections
    induction sections with
    | nil => rfl
    | cons part others ih =>
        rw [List.map_cons, List.flatten_cons, Section.statements,
          List.cons_append, Document.ofStatements, Document.ofStatements_assign, ih,
          List.append_nil]
  obtain ⟨top, sections⟩ := document
  rw [Document.statements, Document.blocks, List.flatten_append]
  cases top with
  | nil => exact hSections sections
  | cons assignment others =>
      rw [List.isEmpty_cons, if_neg Bool.false_ne_true, List.flatten_singleton,
        Document.ofStatements_assign, hSections, List.append_nil]

/-- The text of a block of statements. -/
def blockText (block : List Statement) : Text := block.flatMap statementText

theorem blockText_statements (part : Section) :
    blockText part.statements = sectionText part := by
  rw [blockText, Section.statements, List.flatMap_cons, List.flatMap_map,
    statementText, headerText, sectionText]
  rfl

theorem documentText_eq (document : Document) :
    documentText document = Text.joined ['\n'] (document.blocks.map blockText) := by
  have hSections : (document.sections.map Section.statements).map blockText =
      document.sections.map sectionText := by
    rw [List.map_map]
    exact List.map_congr_left fun part _ => blockText_statements part
  rw [documentText, Document.blocks, List.map_append, hSections]
  cases document.top with
  | nil => rfl
  | cons assignment others =>
      have hTop : blockText ((assignment :: others).map .assign) =
          (assignment :: others).flatMap assignmentText := by
        rw [blockText, List.flatMap_map]
        rfl
      simp only [List.isEmpty_cons, Bool.false_eq_true, if_false,
        List.map_singleton, hTop]
      rfl

/-- A written statement does not begin with what gaps are made of, nor with a byte
order mark. -/
theorem head_statementText (statement : Statement) :
    ∃ c rest, statementText statement = c :: rest ∧ Solid c ∧ c ≠ '\ufeff' := by
  cases statement with
  | assign assignment =>
      obtain ⟨c, rest, hPath, hFirst⟩ :=
        head_pathText assignment.parents assignment.key
      exact ⟨c, _, by rw [statementText, assignmentText, hPath]; rfl,
        solid_keyText hFirst, ne_of_keyFront hFirst (by decide)⟩
  | opening item parents key =>
      cases item <;> exact ⟨'[', _, rfl, by decide, by decide⟩

/-- A blank line in front of statements does not count. -/
theorem readStatements?_break (fuel : Nat) (rest : Text) :
    readStatements? fuel ('\n' :: rest) = readStatements? fuel rest := by
  cases fuel with
  | zero => rfl
  | succ fuel => rw [readStatements?, readStatements?, skipGap?]

/-- **Written statements are read back**, one after the other. -/
theorem readStatements?_block {block : List Statement}
    (h : ∀ statement ∈ block, PlainStatement statement) (fuel : Nat) (rest : Text) :
    readStatements? (fuel + block.length) (blockText block ++ rest) =
      (readStatements? fuel rest).map (block ++ ·) := by
  induction block with
  | nil =>
      change readStatements? fuel rest = (readStatements? fuel rest).map id
      rw [Option.map_id, id_eq]
  | cons statement others ih =>
      rw [List.forall_mem_cons] at h
      obtain ⟨c, front, hText, hSolid, -⟩ := head_statementText statement
      have hRead := readStatement?_statementText h.1 (blockText others ++ rest)
      have hLine : skipLine? ('\n' :: (blockText others ++ rest)) =
          some (blockText others ++ rest) := by simp [skipLine?, dropBlanks]
      have hCons : blockText (statement :: others) ++ rest =
          statementText statement ++ (blockText others ++ rest) := by
        rw [blockText, List.flatMap_cons, List.append_assoc]
        rfl
      rw [hCons, List.length_cons, ← Nat.add_assoc, readStatements?]
      rw [hText, List.cons_append] at hRead ⊢
      simp only [skipGap?_cons hSolid, Option.bind_eq_bind, Option.bind_some, hRead,
        hLine, ih h.2]
      cases readStatements? fuel rest <;> rfl

/-- Blocks of written statements are read back. -/
theorem readStatements?_blocks {blocks : List (List Statement)}
    (h : ∀ statement ∈ blocks.flatten, PlainStatement statement) {fuel : Nat}
    (hFuel : blocks.flatten.length < fuel) :
    readStatements? fuel (Text.joined ['\n'] (blocks.map blockText)) =
      some blocks.flatten := by
  induction blocks generalizing fuel with
  | nil =>
      obtain ⟨fuel, rfl⟩ := Nat.exists_eq_succ_of_ne_zero (by omega : fuel ≠ 0)
      rfl
  | cons block others ih =>
      rw [List.flatten_cons, List.forall_mem_append] at h
      rw [List.flatten_cons, List.length_append] at hFuel
      obtain ⟨fuel, rfl⟩ :=
        Nat.exists_eq_add_of_le' (by omega : block.length ≤ fuel)
      have hOthers := ih h.2 (by omega : _ < fuel)
      cases others with
      | nil =>
          have hBlock := readStatements?_block h.1 fuel []
          have hEnd : readStatements? fuel [] = some [] := hOthers
          rw [hEnd, List.append_nil] at hBlock
          rw [List.map_singleton, Text.joined_singleton, hBlock]
          rfl
      | cons next more =>
          -- what separates two blocks is a blank line to the reader
          rw [List.map_cons, List.map_cons, Text.joined_cons_cons,
            readStatements?_block h.1, List.singleton_append,
            readStatements?_break]
          rw [List.map_cons] at hOthers
          rw [hOthers]
          rfl

/-- A text has a character for each of its statements. -/
theorem length_le_joined (blocks : List (List Statement)) :
    blocks.flatten.length ≤
      (Text.joined ['\n'] (blocks.map blockText)).length := by
  have hBlock : ∀ block : List Statement,
      block.length ≤ (blockText block).length := by
    intro block
    induction block with
    | nil => exact Nat.le_refl _
    | cons statement others ih =>
        obtain ⟨c, front, hText, -⟩ := head_statementText statement
        rw [blockText] at ih ⊢
        rw [List.flatMap_cons, hText, List.length_append, List.length_cons,
          List.length_cons]
        omega
  induction blocks with
  | nil => exact Nat.le_refl _
  | cons block others ih =>
      have hOwn := hBlock block
      rw [List.flatten_cons, List.length_append]
      cases others with
      | nil =>
          rw [List.map_singleton, Text.joined_singleton]
          simpa using hOwn
      | cons next more =>
          rw [List.map_cons] at ih
          rw [List.map_cons, List.map_cons, Text.joined_cons_cons,
            List.length_append, List.length_append]
          omega

theorem dropMark_of_head {text : Text} (h : text.head? ≠ some '\ufeff') :
    dropMark text = text := by
  unfold dropMark
  split
  · exact absurd rfl h
  · rfl

/-- No document begins with a byte order mark. -/
theorem head?_joined (blocks : List (List Statement)) :
    (Text.joined ['\n'] (blocks.map blockText)).head? ≠ some '\ufeff' := by
  cases blocks with
  | nil => simp [Text.joined]
  | cons block others =>
      obtain ⟨more, hMore⟩ : ∃ more, Text.joined ['\n']
          ((block :: others).map blockText) = blockText block ++ more ∧
          more.head? ≠ some '\ufeff' := by
        cases others with
        | nil => exact ⟨[], by simp [Text.joined_singleton], by simp⟩
        | cons next rest =>
            exact ⟨_, by rw [List.map_cons, List.map_cons, Text.joined_cons_cons],
              by simp⟩
      rw [hMore.1]
      cases block with
      | nil => exact hMore.2
      | cons statement rest =>
          obtain ⟨c, front, hText, -, hMark⟩ := head_statementText statement
          rw [blockText, List.flatMap_cons, hText]
          simpa using hMark

/-- **A document of plain statements is read back.** -/
theorem Document.read?_documentText {document : Document}
    (h : ∀ statement ∈ document.statements, PlainStatement statement) :
    Document.read? (documentText document) = some document := by
  have hFuel := Nat.lt_succ_of_le (length_le_joined document.blocks)
  rw [Document.read?, documentText_eq,
    dropMark_of_head (head?_joined document.blocks),
    readStatements?_blocks h hFuel, Option.map_some]
  exact congrArg some document.ofStatements_statements

end QueryPhrase.Toml
