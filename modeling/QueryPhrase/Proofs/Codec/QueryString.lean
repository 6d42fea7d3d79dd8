import QueryPhrase.Codec
import QueryPhrase.Proofs.Form

/-!
# Query strings of a codec

A query string is cut back into the very pairs it was written from, so a codec
reads from it what it reads from the pairs. Which names and separators the codec
has does not matter, and neither does the text in the pairs. Reading drops one
question mark at the front. No query string begins with one, so it is never a
character of the pairs that goes.

## Main results

* `Codec.dropQuestionMark_encode` — dropping the question mark takes nothing of
  a query string along.
* `Codec.decodeQuery_transparent` — a query string is read as its pairs are,
  with or without a question mark in front.
-/

namespace QueryPhrase.Codec

/-- There is no question mark to drop in front of a query string. -/
theorem dropQuestionMark_encode (pairs : List (Text × Text)) :
    dropQuestionMark (Form.encode pairs) = Form.encode pairs := by
  have hMark := Form.head_encode_ne pairs
  unfold dropQuestionMark
  split
  · next rest hQuery =>
      rw [hQuery] at hMark
      exact absurd rfl hMark
  · rfl

/-- A request is read from its query string as from its pairs. -/
theorem decodeQuery_encode (codec : Codec) (request : Request) :
    codec.decodeQuery (codec.encodeQuery request) =
      codec.decode (codec.encode request) := by
  rw [decodeQuery, encodeQuery, dropQuestionMark_encode, Form.decode_encode]

/-- **A query string is read as its pairs are.** For every codec, well formed or
not, and every request, the query string gives the model that the pairs give,
also behind a question mark. This is so because a query string is read as the
pairs it was written from, whatever they are, and because the question mark that
is dropped is never one of theirs. -/
theorem decodeQuery_transparent (codec : Codec) (request : Request) :
    codec.decodeQuery (codec.encodeQuery request) =
        codec.decode (codec.encode request) ∧
      codec.decodeQuery ('?' :: codec.encodeQuery request) =
        codec.decode (codec.encode request) ∧
      (∀ pairs : List (Text × Text),
        Form.decode (Form.encode pairs) = pairs) ∧
      ∀ pairs : List (Text × Text),
        dropQuestionMark (Form.encode pairs) = Form.encode pairs ∧
          dropQuestionMark ('?' :: Form.encode pairs) = Form.encode pairs := by
  have hMarked : codec.decodeQuery ('?' :: codec.encodeQuery request) =
      codec.decodeQuery (codec.encodeQuery request) := by
    rw [decodeQuery, decodeQuery, encodeQuery, dropQuestionMark_encode]
    rfl
  refine ⟨decodeQuery_encode codec request, ?_, Form.decode_encode, ?_⟩
  · rw [hMarked, decodeQuery_encode]
  · exact fun pairs => ⟨dropQuestionMark_encode pairs, rfl⟩

/-- A question mark of the pairs is escaped, and so is whatever else has a meaning
in a query string. -/
example :
    Form.encode [("?", "a&b"), ("", "= é")] =
      ("%3F=a%26b&=%3D+%C3%A9" : Text) := by
  decide

end QueryPhrase.Codec
