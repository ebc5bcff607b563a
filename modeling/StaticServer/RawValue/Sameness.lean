import StaticServer.RawValue.Basic

/-!
# When values of any kind are the same

Numbers are the same when they are equal as numbers, and truth values count as zero and one.
Lists are the same item by item, records name by name in any order. What is not a number is
never the same as anything.
-/

namespace StaticServer.RawValue

/-- The number that a value is, if it is one. -/
def number? : RawValue → Option Rat
  | .boolean b => some (if b then 1 else 0)
  | .integer n => some n
  | .float x => x.number?
  | _ => none

/-- Are two values the same that hold no others? -/
def sameLeaf (v w : RawValue) : Bool :=
  match v.number?, w.number? with
  | some x, some y => x = y
  | none, none => v = w && v ≠ .float .notANumber
  | _, _ => false

mutual

/-- Are two values the same? -/
def same : RawValue → RawValue → Bool
  | .list vs, w =>
    match w with
    | .list ws => sameItems vs ws
    | _ => false
  | .record fs, w =>
    match w with
    | .record gs => fs.length = gs.length && sameFields fs gs
    | _ => false
  | v, w => sameLeaf v w

/-- Are two lists the same item by item? -/
def sameItems : List RawValue → List RawValue → Bool
  | [], ws => ws.isEmpty
  | v :: vs, ws =>
    match ws with
    | w :: ws => same v w && sameItems vs ws
    | [] => false

/-- Does each name have the same value in a record? -/
def sameFields : List (Text × RawValue) → List (Text × RawValue) → Bool
  | [], _ => true
  | (name, v) :: fs, gs => (gs.lookup name).any (same v) && sameFields fs gs

end

/-! ### Values that can be told apart in a set -/

/-- Can a value belong to a set? Lists and records cannot. -/
def isSettled : RawValue → Bool
  | .list _ => false
  | .record _ => false
  | _ => true

/-- The message about a value that cannot belong to a set. -/
def unsettledMessage (v : RawValue) : Text :=
  "unhashable type: " ++ Text.quoted v.kindName

end StaticServer.RawValue
