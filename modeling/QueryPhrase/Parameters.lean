import QueryPhrase.Text

/-!
# Parameters

Free-form parameters of a request: pairs of a key and a value in the order they
came in. A key may come more than once.
-/

namespace QueryPhrase

/-- Pairs of a key and a value, in order. -/
abbrev Parameters := List (Text × Text)

namespace Parameters

/-- The first value of a key. -/
def get? (parameters : Parameters) (key : Text) : Option Text :=
  (parameters.find? (·.1 == key)).map Prod.snd

/-- Every value of a key, in order. -/
def getAll (parameters : Parameters) (key : Text) : List Text :=
  (parameters.filter (·.1 == key)).map Prod.snd

/-- Whether a key has a value. -/
def contains (parameters : Parameters) (key : Text) : Bool :=
  (get? parameters key).isSome

/-- Adds a value for a key at the end. -/
def append (parameters : Parameters) (key value : Text) : Parameters :=
  parameters ++ [(key, value)]

/-- The pairs of other keys. -/
def without (parameters : Parameters) (key : Text) : Parameters :=
  parameters.filter (·.1 != key)

/-- Drops every pair with a key, and says whether there was one. -/
def remove (parameters : Parameters) (key : Text) : Parameters × Bool :=
  (without parameters key, contains parameters key)

/-- Makes `value` the only value of a key: in the place of its first pair, or at
the end if it has none. -/
def set (parameters : Parameters) (key value : Text) : Parameters :=
  match parameters with
  | [] => [(key, value)]
  | (k, v) :: rest =>
    if k = key then (key, value) :: without rest key
    else (k, v) :: set rest key value

end Parameters

end QueryPhrase
