import StaticServer.RawValue.Sameness
import StaticServer.Text.Fault

/-!
# Values of the interpreter

The values that the interpreter in the playground hands out. Each has a kind, with a tag of
its own, and a text that the user sees.
-/

namespace StaticServer

/-- A value of the interpreter. Texts, truth values and messages are meant to be of their
kinds, but nothing checks that (`Object.isProper`), and a number can have any size. -/
inductive Object where
  /-- A whole number. -/
  | integer (n : Int)
  /-- A text. -/
  | string (v : RawValue)
  /-- A truth value. -/
  | boolean (v : RawValue)
  /-- No value. -/
  | null
  /-- A failure of a program, with its message. -/
  | error (message : RawValue)
  deriving DecidableEq

/-- The kind of a value. -/
inductive ObjectKind where
  | integer
  | string
  | boolean
  | null
  | error
  deriving DecidableEq, Repr

namespace ObjectKind

/-- All kinds, in the order of their declaration. -/
def all : List ObjectKind :=
  [.integer, .string, .boolean, .null, .error]

/-- The name of a kind. -/
def name : ObjectKind → Text
  | .integer => "INTEGER"
  | .string => "STRING"
  | .boolean => "BOOLEAN"
  | .null => "NULL"
  | .error => "ERROR"

/-- The tag of a kind, in the words of the language. -/
def tag : ObjectKind → Text
  | .integer => "NAMBA"
  | .string => "NENO"
  | .boolean => "BOOLEAN"
  | .null => "TUPU"
  | .error => "KOSA"

/-- The kind with a tag. -/
def ofTag? (t : Text) : Option ObjectKind :=
  all.find? (·.tag = t)

/-- The message about a value that is no tag, given as messages show it. -/
def unknownTagMessage (shown : Text) : Text :=
  shown ++ " is not a valid ObjectType"

end ObjectKind

namespace Object

/-- What stands before the message of a failure. -/
def errorLabel : Text :=
  "Kosa: "

/-- Why a value gives no whole number. -/
inductive IntegerError where
  /-- It is a text of something else. -/
  | text (t : Text)
  /-- It is infinite. -/
  | infinite
  /-- It is not a number. -/
  | notANumber
  /-- It is of another kind. -/
  | otherKind (v : RawValue)
  deriving DecidableEq

/-- The message of an error. -/
def IntegerError.message : IntegerError → Text
  | .text t => Text.integerMessage t
  | .infinite => "cannot convert float infinity to integer"
  | .notANumber => "cannot convert float NaN to integer"
  | .otherKind v =>
    "int() argument must be a string, a bytes-like object or a real number, not " ++
      Text.quoted v.kindName

/-- The object of the whole number that a value gives. Numbers lose their fraction. -/
def ofNumber (v : RawValue) : Except IntegerError Object :=
  match v with
  | .text t =>
    match Text.toInt? t with
    | some n => .ok (.integer n)
    | none => .error (.text t)
  | .integer n => .ok (.integer n)
  | .boolean b => .ok (.integer (if b then 1 else 0))
  | .float (.infinity _) => .error .infinite
  | .float .notANumber => .error .notANumber
  | .float .negativeZero => .ok (.integer 0)
  | .float (.number x) => .ok (.integer (x.num.tdiv x.den))
  | v => .error (.otherKind v)

/-- The object of a kind that a value gives. -/
def make (k : ObjectKind) (v : RawValue) : Except IntegerError Object :=
  match k with
  | .integer => ofNumber v
  | .string => .ok (.string v)
  | .boolean => .ok (.boolean v)
  | .null => .ok .null
  | .error => .ok (.error v)

/-- The kind of a value. -/
def kind : Object → ObjectKind
  | .integer _ => .integer
  | .string _ => .string
  | .boolean _ => .boolean
  | .null => .null
  | .error _ => .error

/-- A number with more digits than `Text.digitLimit` is not shown. -/
def isShown (n : Int) : Bool :=
  (Text.ofNat n.natAbs).length ≤ Text.digitLimit

/-- Does a value hold what is meant for its kind, and can it be shown? -/
def isProper : Object → Bool
  | .integer n => isShown n
  | .string (.text _) => true
  | .boolean (.boolean _) => true
  | .null => true
  | .error (.text _) => true
  | _ => false

/-- Why a value cannot be shown. -/
inductive RenderError where
  /-- A number has too many digits. -/
  | tooLong
  /-- The text of a failure cannot be put together with a message of this kind. -/
  | message (v : RawValue)
  deriving DecidableEq

/-- The words about it. -/
def RenderError.text : RenderError → Text
  | .tooLong =>
    "Exceeds the limit (" ++ (Text.ofNat Text.digitLimit ++
      (" digits) for integer string conversion; " ++
        "use sys.set_int_max_str_digits() to increase the limit"))
  | .message v => "can only concatenate str (not \"" ++ (v.kindName ++ "\") to str")

/-- What the user sees of a value; a text is shown as it is held. -/
def render : Object → Except RenderError RawValue
  | .integer n => if isShown n then .ok (.text (Text.ofInt n)) else .error .tooLong
  | .string v => .ok v
  | .boolean v => .ok (.text (if v.isYes then "kweli" else "sikweli"))
  | .null => .ok (.text "tupu")
  | .error (.text t) => .ok (.text (errorLabel ++ t))
  | .error v => .error (.message v)

/-- Is it a failure? -/
def isError (o : Object) : Bool :=
  o.kind = .error

/-- Are two values the same: of one kind, and holding the same? -/
def same : Object → Object → Bool
  | .integer m, .integer n => m = n
  | .string v, .string w => v.same w
  | .boolean v, .boolean w => v.same w
  | .null, .null => true
  | .error v, .error w => v.same w
  | _, _ => false

/-- What a value holds, if that is left to whoever makes it. -/
def held? : Object → Option RawValue
  | .string v => some v
  | .boolean v => some v
  | .error v => some v
  | _ => none

/-- How many different values there are among some, or the first that cannot be told apart from
others. -/
def distinctCount (os : List Object) : Except RawValue Nat :=
  match (os.filterMap held?).find? (!·.isSettled) with
  | some v => .error v
  | none => .ok (os.eraseDupsBy same).length

/-- How many different kinds there are. -/
def kindCount (os : List Object) : Nat :=
  (os.map kind).eraseDups.length

/-- The message about giving a field of a value another value, which never succeeds. -/
def assignMessage (field : Text) : Text :=
  "cannot assign to field " ++ Text.quoted field

end Object

end StaticServer
