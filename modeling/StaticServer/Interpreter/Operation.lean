import StaticServer.Interpreter.Object

/-!
# Working with values of the interpreter

Values are made one after the other. Those that are there can be compared and counted, and one can
try to give a field of a value another value, which is always refused. A step goes from the values
that there are to those that there are then (`Object.step`), and a run takes one step after the
other (`Object.run`).
-/

namespace StaticServer.Object

/-- What is done with values. A value is named by its place among those that there are, or from the
last one on by a negative number. -/
inductive Operation where
  /-- Makes a value of a kind. -/
  | make (k : ObjectKind) (v : RawValue)
  /-- Compares two values. -/
  | compare (i j : Int)
  /-- Counts the different values and kinds. -/
  | count
  /-- Gives a field of a value another value. -/
  | assign (i : Int) (field : Text) (v : RawValue)

/-- What comes of it. -/
inductive Answer where
  /-- A value was made, and this is what it is. -/
  | made (k : ObjectKind) (shown : RawValue) (isError : Bool)
  /-- A value was made that cannot be shown. -/
  | notShown (e : RenderError)
  /-- No value was made. -/
  | notMade (e : IntegerError)
  /-- Are the values the same? -/
  | compared (areSame : Bool)
  /-- How many different values and kinds there are. -/
  | counted (values kinds : Nat)
  /-- The values cannot be told apart, because one of them holds this value. -/
  | notCounted (held : RawValue)
  /-- The field of a value does not take another value, and this is what is said about it. -/
  | refused (message : Text)
  /-- There is no value at this place. -/
  | outOfRange
  deriving DecidableEq

/-- The value at a place. -/
def at? (os : List Object) (i : Int) : Option Object :=
  let i := if i < 0 then i + os.length else i
  if i < 0 then none else os[i.toNat]?

/-- What there is to say about a value that was made. -/
def describe (o : Object) : Answer :=
  match o.render with
  | .ok shown => .made o.kind shown o.isError
  | .error e => .notShown e

/-- One operation: the values that there are then, and the answer. -/
def step (os : List Object) : Operation → List Object × Answer
  | .make k v =>
    match make k v with
    | .ok o => (os ++ [o], o.describe)
    | .error e => (os, .notMade e)
  | .compare i j =>
    match at? os i, at? os j with
    | some a, some b => (os, .compared (a.same b))
    | _, _ => (os, .outOfRange)
  | .count =>
    match distinctCount os with
    | .ok n => (os, .counted n (kindCount os))
    | .error v => (os, .notCounted v)
  | .assign i field _ =>
    match at? os i with
    | some _ => (os, .refused (assignMessage field))
    | none => (os, .outOfRange)

/-- One operation after the other: the values that there are then, and the answers. -/
def run (os : List Object) : List Operation → List Object × List Answer
  | [] => (os, [])
  | op :: ops =>
    let (os, answer) := step os op
    let (os, answers) := run os ops
    (os, answer :: answers)

end StaticServer.Object
