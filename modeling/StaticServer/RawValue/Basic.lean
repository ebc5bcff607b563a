import StaticServer.Number.FloatValue
import StaticServer.Text.Quoted

/-!
# Values of any kind

What the program is given need not be of the kind that it asks for. A `RawValue` is a value of
any kind, before anything is asked of it. Messages show it (`shown`), and inside another value
with its texts in quotation marks (`quoted`); they name its kind (`kindName`). Any value counts
as a yes or a no (`isYes`).
-/

namespace StaticServer

/-- A value of any kind. -/
inductive RawValue where
  /-- Nothing. -/
  | null
  /-- A truth value. -/
  | boolean (b : Bool)
  /-- A whole number. -/
  | integer (n : Int)
  /-- A floating-point value. -/
  | float (x : FloatValue)
  /-- A text. -/
  | text (t : Text)
  /-- A list. -/
  | list (items : List RawValue)
  /-- A record: values by their names. -/
  | record (fields : List (Text × RawValue))

namespace RawValue

instance : Inhabited RawValue :=
  ⟨.null⟩

mutual

/-- Decides whether two values are the same. -/
protected def decEq (v w : RawValue) : Decidable (v = w) := by
  cases v <;> cases w
  case null.null => exact isTrue rfl
  case boolean.boolean a b => exact decidable_of_iff (a = b) (by simp)
  case integer.integer a b => exact decidable_of_iff (a = b) (by simp)
  case float.float a b => exact decidable_of_iff (a = b) (by simp)
  case text.text a b => exact decidable_of_iff (a = b) (by simp)
  case list.list a b =>
    exact @decidable_of_iff _ (a = b) (by simp) (RawValue.decEqItems a b)
  case record.record a b =>
    exact @decidable_of_iff _ (a = b) (by simp) (RawValue.decEqFields a b)
  all_goals exact isFalse nofun

/-- Decides whether two lists of values are the same. -/
protected def decEqItems : (a b : List RawValue) → Decidable (a = b)
  | [], [] => isTrue rfl
  | [], _ :: _ => isFalse nofun
  | _ :: _, [] => isFalse nofun
  | v :: a, w :: b =>
    @decidable_of_iff _ (v = w ∧ a = b) (by simp)
      (@instDecidableAnd _ _ (RawValue.decEq v w) (RawValue.decEqItems a b))

/-- Decides whether two lists of named values are the same. -/
protected def decEqFields : (a b : List (Text × RawValue)) → Decidable (a = b)
  | [], [] => isTrue rfl
  | [], _ :: _ => isFalse nofun
  | _ :: _, [] => isFalse nofun
  | (m, v) :: a, (n, w) :: b =>
    @decidable_of_iff _ (m = n ∧ v = w ∧ a = b) (by simp [and_assoc])
      (@instDecidableAnd _ _ inferInstance
        (@instDecidableAnd _ _ (RawValue.decEq v w) (RawValue.decEqFields a b)))

end

instance : DecidableEq RawValue :=
  RawValue.decEq

/-! ### Showing a value -/

mutual

/-- The value as a message shows it inside another one: texts stand in quotation marks. -/
def quoted : RawValue → Text
  | .null => "None"
  | .boolean b => if b then "True" else "False"
  | .integer n => Text.ofInt n
  | .float x => x.text
  | .text t => Text.quoted t
  | .list items => '[' :: Text.join ", " (quotedItems items) ++ [']']
  | .record fields => '\x7b' :: Text.join ", " (quotedFields fields) ++ ['\x7d']

/-- The values of a list as a message shows them. -/
def quotedItems : List RawValue → List Text
  | [] => []
  | v :: rest => quoted v :: quotedItems rest

/-- The values of a record as a message shows them, each behind its name. -/
def quotedFields : List (Text × RawValue) → List Text
  | [] => []
  | (name, v) :: rest => (Text.quoted name ++ (": " ++ quoted v)) :: quotedFields rest

end

/-- The value as a message shows it: a text stands for itself. -/
def shown : RawValue → Text
  | .text t => t
  | v => v.quoted

/-- The word for the kind of a value. -/
def kindName : RawValue → Text
  | .null => "NoneType"
  | .boolean _ => "bool"
  | .integer _ => "int"
  | .float _ => "float"
  | .text _ => "str"
  | .list _ => "list"
  | .record _ => "dict"

/-- Does a value count as a yes? Nothing, zero, and what is empty count as a no. -/
def isYes : RawValue → Bool
  | .null => false
  | .boolean b => b
  | .integer n => n ≠ 0
  | .float x => x.number? ≠ some 0
  | .text t => !t.isEmpty
  | .list items => !items.isEmpty
  | .record fields => !fields.isEmpty

/-- The value of a field that may have been left blank; then it is the empty list. -/
def ofField {α : Type} (value : α → RawValue) : Option α → RawValue
  | some a => value a
  | none => .list []

/-! ### Messages about the kind of a value -/

/-- The message about a value that does not have an attribute that is asked for. -/
def noAttributeMessage (v : RawValue) (name : Text) : Text :=
  Text.quoted v.kindName ++ (" object has no attribute " ++ Text.quoted name)

/-- The message about a value that is called like a function. -/
def notCallableMessage (v : RawValue) : Text :=
  Text.quoted v.kindName ++ " object is not callable"

end RawValue

end StaticServer
