import QueryPhrase.Token

/-!
# Token buffers

A recognizer gathers the characters of its token in a buffer anchored at the
offset of the first one. The buffer keeps count of its characters, so asking for
its end does not walk through it.

Ends are 64-bit words, those given from outside and those told: the offset after
the largest word is zero.
-/

namespace QueryPhrase

/-- Characters gathered from an offset on, and how many there are. -/
structure TokenBuffer where
  /-- The offset of the first character. -/
  start : Nat
  value : Text
  length : Nat
deriving DecidableEq, Repr

namespace TokenBuffer

/-- An empty buffer at `start`. -/
def empty (start : Nat) : TokenBuffer := ⟨start, [], 0⟩

/-- A buffer at `start` that holds `initial`. -/
def ofText (start : Nat) (initial : Text) : TokenBuffer :=
  ⟨start, initial, initial.length⟩

/-- Adds one character at the end. -/
def append (buffer : TokenBuffer) (c : Char) : TokenBuffer :=
  { buffer with value := buffer.value ++ [c], length := buffer.length + 1 }

/-- Moves the anchor and keeps the characters. -/
def setStart (buffer : TokenBuffer) (start : Nat) : TokenBuffer :=
  { buffer with start := start }

def isEmpty (buffer : TokenBuffer) : Bool := buffer.length == 0

/-- The offset of the last character; none while empty. -/
def stop? (buffer : TokenBuffer) : Option Nat :=
  if buffer.isEmpty then none
  else some (UInt64.ofNat buffer.start + UInt64.ofNat buffer.length - 1).toNat

/-- The offset the next character will take. -/
def next (buffer : TokenBuffer) : Nat := buffer.start + buffer.length

/-- Cuts the buffer so that its last character sits at `stop`: an earlier stop
than the start empties it, a later one than its own changes nothing. -/
def setStop (buffer : TokenBuffer) (stop : UInt64) : TokenBuffer :=
  let kept := min ((stop + 1).toNat - buffer.start) buffer.length
  { buffer with value := buffer.value.take kept, length := kept }

/-- The buffered characters as a leaf; none when there are none. -/
def token? (buffer : TokenBuffer) (kind : TokenKind) : Option Token :=
  if buffer.isEmpty then none
  else some (Token.leaf kind buffer.value buffer.start)

end TokenBuffer

end QueryPhrase
