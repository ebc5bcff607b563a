import StaticServer.Text.LetterCase

/-!
# Named texts

The environment and the entries of a settings file are names with values. A name that is
given again keeps its place and takes the new value. Settings may look a name up without
regard to letter case; then several names can match (`firstLike?`, `lastLike?`).
-/

namespace StaticServer

/-- Names with values, in order; `put` gives no name twice. -/
abbrev Bindings (α : Type) := List (Text × α)

namespace Bindings

variable {α : Type}

/-- The bindings with a value for a name. -/
def put (name : Text) (value : α) : Bindings α → Bindings α
  | [] => [(name, value)]
  | (n, v) :: rest => if n = name then (name, value) :: rest else (n, v) :: put name value rest

/-- The bindings of names and values given one after the other. -/
def ofList (pairs : List (Text × α)) : Bindings α :=
  pairs.foldl (fun b (name, value) ↦ put name value b) []

/-- The value of a name. -/
def get? (b : Bindings α) (name : Text) : Option α :=
  b.lookup name

/-- The value of the first name that is `name` after folding. -/
def firstLike? (fold : Text → Text) (b : Bindings α) (name : Text) : Option α :=
  (b.find? fun (n, _) ↦ fold n = name).map Prod.snd

/-- The value of the last name that is `name` after folding. -/
def lastLike? (fold : Text → Text) (b : Bindings α) (name : Text) : Option α :=
  firstLike? fold b.reverse name

end Bindings

/-- The variables of the environment. -/
abbrev Environment := Bindings Text

end StaticServer
