import QueryPhrase.Text.GraphemeExtend
import QueryPhrase.Text.Width.Table

/-!
# Widths

How many terminal columns a text takes. On its own a character takes none to three
columns by its Unicode properties, but what stands on its right may change that:
a selector turns a text character into a picture or back, a skin tone merges into
its base, joiners tie pictures together, and some scripts draw several letters as
one. So a text is measured from its end. What was seen there and still matters to
the next character is a `Neighbour`; a character that merges into its neighbour
adds nothing, or takes back what the neighbour took.
-/

namespace QueryPhrase.Width

/-! ## Neighbours -/

/-- A variation selector that has not met its character yet. -/
inductive Selector
  /-- Asks for a text character. -/
  | text
  /-- Asks for a picture. -/
  | picture
  /-- Asks for a wide quotation mark. -/
  | wideQuote
deriving DecidableEq, Repr

/-- The right part of a ligature. Some ligatures need a joiner, and then the part
says whether it has `joined` one. -/
inductive Ligature
  /-- An Arabic letter of the shape alef, waiting for a lam. -/
  | alef
  /-- A Hebrew lamed, waiting for an alef. -/
  | lamed (joined : Bool)
  /-- A Khmer letter, waiting for the sign that puts it below another one. -/
  | subscript
  /-- A Buginese ya, waiting for a vowel. -/
  | ya (joined : Bool)
  /-- A Buginese ya with its vowel, waiting for another letter. -/
  | vowelYa
  /-- A Tifinagh letter, waiting for another one. -/
  | tifinagh (joined : Bool)
  /-- A Tifinagh letter with a consonant joiner, waiting for another letter. -/
  | tifinaghJoiner
  /-- The right one of two Lisu tone marks. -/
  | lisuTone
  /-- An Old Turkic i, waiting for an ec. -/
  | turkicI (joined : Bool)
deriving DecidableEq, Repr

/-- What stands on the right of a place and matters to the character there. -/
inductive Neighbour
  | nothing
  | selector (asked : Selector)
  /-- A part of a ligature, and a selector before it. -/
  | ligature (part : Ligature) (asked : Option Selector)
  /-- The Kirat Rai vowel e. -/
  | vowelE
  /-- The Kirat Rai vowel ai. -/
  | vowelAi
  | tone
  /-- One letter of a flag. -/
  | letter
  /-- Two letters of a flag, or more. -/
  | letters
  | picture
  /-- A joiner before a picture. -/
  | joined
  /-- A picture selector before a joined picture. -/
  | joinedSelector
  /-- A keycap before a joined picture, and maybe a picture selector before it. -/
  | joinedKeycap (selected : Bool)
  /-- One letter of a flag before a joined picture. -/
  | joinedLetter
  /-- Two letters of flags before a joined picture, or more, and whether their
  number is odd. Letters pair up from the left, so the joiner ties to a flag only
  if it is even. -/
  | joinedLetters (odd : Bool)
  /-- The end of a flag spelt by tags before a joined picture: some letters, and
  some digits before them. -/
  | tags (letters digits : Nat)
deriving DecidableEq, Repr

namespace Neighbour

/-- The selector that waits for a character. -/
def asked? : Neighbour → Option Selector
  | selector asked => some asked
  | ligature _ asked => asked
  | joinedSelector => some .picture
  | joinedKeycap true => some .picture
  | _ => none

/-- The neighbour once a character has not taken up its selector. -/
def unasked : Neighbour → Neighbour
  | ligature part _ => ligature part none
  | selector _ => nothing
  | joinedSelector => nothing
  | joinedKeycap true => nothing
  | right => right

/-- The neighbour with a selector before it. -/
def ask (asked : Selector) : Neighbour → Neighbour
  | ligature part _ => ligature part (some asked)
  | joined => if asked = .picture then joinedSelector else selector asked
  | joinedKeycap false =>
    if asked = .picture then joinedKeycap true else selector asked
  | _ => selector asked

/-- Whether a joiner ties the neighbour to a picture further right. -/
def isJoined : Neighbour → Bool
  | joinedSelector | joinedKeycap _ => true
  | _ => false

end Neighbour

/-! ## Characters -/

def joiner : Char := '\u200d'

/-- The selector that a character is. -/
def selector? (c : Char) : Option Selector :=
  if c = '\ufe0e' then some .text
  else if c = '\ufe0f' then some .picture
  else if c = '\ufe01' then some .wideQuote
  else none

/-- Whether a character is a skin tone. -/
def isTone (c : Char) : Bool := 0x1F3FB ≤ c.toNat && c.toNat ≤ 0x1F3FF

/-- Whether a character is a letter of a flag. -/
def isFlagLetter (c : Char) : Bool := 0x1F1E6 ≤ c.toNat && c.toNat ≤ 0x1F1FF

/-- Whether a character is a letter of a flag spelt by tags. -/
def isTagLetter (c : Char) : Bool := 0xE0061 ≤ c.toNat && c.toNat ≤ 0xE007A

/-- Whether a character is a digit of a flag spelt by tags. -/
def isTagDigit (c : Char) : Bool := 0xE0030 ≤ c.toNat && c.toNat ≤ 0xE0039

/-- Whether a character takes up a selector. Squared ideographs stay wide as
text. -/
def takesUp (c : Char) : Selector → Bool
  | .picture => textEmoji.has c || selectableEmoji.has c
  | .text =>
    selectableEmoji.has c && !(0x1F200 ≤ c.toNat && c.toNat ≤ 0x1F2FF)
  | .wideQuote => c = '‘' || c = '’' || c = '“' || c = '”'

/-- Whether a character takes no room on its own. The Tifinagh consonant joiner
does take some: it is seen unless it joins. -/
def isRoomless (c : Char) : Bool :=
  c != '\u2d7f' && (isGraphemeExtend c || roomless.has c)

/-- The part of a ligature that a character is. -/
def ligature? (c : Char) : Option Ligature :=
  if alefs.has c then some .alef
  else if c = '\u05dc' then some (.lamed false)
  else if subscriptLetters.has c then some .subscript
  else if c = '\u1a10' then some (.ya false)
  else if tifinaghLetters.has c then some (.tifinagh false)
  else if c = '\ua4fc' || c = '\ua4fd' then some .lisuTone
  else if c.toNat = 0x10C03 then some (.turkicI false)
  else none

/-- What a character without ligatures takes on its own, and what it is to the one
on its left. -/
def alone (c : Char) : Int × Neighbour :=
  let n := c.toNat
  if n = 0x17D8 then (3, .nothing)
  else if n = 0x16D67 then (1, .vowelE)
  else if n = 0x16D68 then (1, .vowelAi)
  else if isFlagLetter c then (1, .letter)
  else if isTone c then (2, .tone)
  else if pictureEmoji.has c then (2, .picture)
  else if isRoomless c then (0, .nothing)
  else if doubleWide.has c then (2, .nothing)
  else (1, .nothing)

/-! ## Merging -/

/-- A part of a ligature with a joiner before it. -/
def Ligature.join : Ligature → Ligature
  | lamed _ => lamed true
  | ya _ => ya true
  | tifinagh _ => tifinagh true
  | turkicI _ => turkicI true
  | part => part

/-- How a character completes a ligature whose right part is given. -/
def Ligature.complete? (c : Char) : Ligature → Option (Int × Neighbour)
  | alef => if lams.has c then some (0, .nothing) else none
  | lamed joined =>
    if joined && c = '\u05d0' then some (0, .nothing) else none
  | subscript => if c = '\u17d2' then some (-1, .nothing) else none
  | ya joined =>
    if joined && c = '\u1a17' then some (0, .ligature vowelYa none) else none
  | vowelYa => if c = '\u1a15' then some (0, .nothing) else none
  | tifinagh joined =>
    if c = '\u2d7f' then some (1, .ligature tifinaghJoiner none)
    else if joined && tifinaghLetters.has c then some (0, .nothing)
    else none
  | tifinaghJoiner =>
    if tifinaghLetters.has c then some (-1, .nothing) else none
  | lisuTone =>
    if '\ua4f8' ≤ c && c ≤ '\ua4fb' then some (0, .nothing) else none
  | turkicI joined =>
    if joined && c.toNat = 0x10C32 then some (0, .nothing) else none

/-- How the part of a ligature is seen through a character without room. -/
def Ligature.through? (c : Char) (part : Ligature) : Option Ligature :=
  if part = alef then
    if isRoomless c && !joinBreaking.has c then some part else none
  else if c = joiner then some part.join
  else if unnoticed.has c then some part
  else none

/-- How a character merges into its neighbour, a selector apart, if it does. -/
def merge? (c : Char) : Neighbour → Option (Int × Neighbour)
  | .ligature part _ =>
    match part.through? c with
    | some part => some (0, .ligature part none)
    | none => part.complete? c
  | .vowelE =>
    if c.toNat = 0x16D63 || c.toNat = 0x16D69 then some (0, .nothing)
    else if c.toNat = 0x16D67 then some (0, .vowelAi)
    else if c.toNat = 0x16D68 then some (1, .vowelE)
    else none
  | .vowelAi => if c.toNat = 0x16D63 then some (0, .nothing) else none
  | .tone =>
    if toneBase.has c then some (0, .picture)
    else if c = joiner then some (0, .joined)
    else none
  | .letter => if isFlagLetter c then some (1, .letters) else none
  | .letters =>
    if isFlagLetter c then some (1, .letters)
    else if c = joiner then some (0, .joined)
    else none
  | .picture => if c = joiner then some (0, .joined) else none
  | .joined =>
    if c = '\u20e3' then some (0, .joinedKeycap false)
    else if isFlagLetter c then some (1, .joinedLetter)
    else if isTone c then some (0, .tone)
    else if pictureEmoji.has c then some (0, .picture)
    else if c.toNat = 0xE007F then some (0, .tags 0 0)
    else none
  | .joinedLetter =>
    if isFlagLetter c then some (-1, .joinedLetters false) else none
  | .joinedLetters odd =>
    if isFlagLetter c then some (if odd then -1 else 3, .joinedLetters !odd)
    else if c = joiner then some (0, .joined)
    else none
  | .tags letters digits =>
    if isTagLetter c && digits == 0 && letters < 6 then
      some (0, .tags (letters + 1) 0)
    else if isTagDigit c && digits < 3 && (digits != 0 || letters < 5) then
      some (0, .tags letters (digits + 1))
    else if c.toNat = 0x1F3F4 && (digits == 3 || digits == 0 && 3 ≤ letters) then
      some (0, .picture)
    else none
  | .nothing | .selector _ | .joinedSelector | .joinedKeycap _ => none

/-! ## Texts -/

/-- What a character takes beside its right neighbour, and what it is to the one on
its left. -/
def step (c : Char) (right : Neighbour) : Int × Neighbour :=
  if right.asked?.any (takesUp c) then
    match right.asked? with
    | some .picture => (if right.isJoined then 0 else 2, .picture)
    | some .wideQuote => (2, .nothing)
    | _ => (1, .nothing)
  else if c.toNat ≤ 0xA0 then (1, .nothing)
  else
    match selector? c with
    | some asked => (0, right.unasked.ask asked)
    | none =>
      match merge? c right.unasked, ligature? c with
      | some merged, _ => merged
      | none, some part => (1, .ligature part none)
      | none, none => alone c

/-- The columns of a text, and what its front is to a character on its left. -/
def measure (text : Text) : Int × Neighbour :=
  text.foldr (fun c sofar =>
    let (columns, left) := step c sofar.2
    (sofar.1 + columns, left)) (0, .nothing)

end QueryPhrase.Width

namespace QueryPhrase

/-- How many columns a text takes. -/
def textWidth (text : Text) : Nat := (Width.measure text).1.toNat

end QueryPhrase
