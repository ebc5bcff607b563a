import StaticServer.RawValue.Basic
import StaticServer.Settings.Basic
import StaticServer.Settings.Numeral

/-!
# What is wrong with the values of fields

A field is given as a value of any kind. Five fields take texts only. The port takes whole
numbers of any size, truth values, floating-point numbers without a fraction, and texts of
whole numbers in a syntax of their own (`Numeral`). What cannot be taken has an `Issue`.
-/

namespace StaticServer

/-- What is wrong with a value. -/
inductive Issue where
  /-- A text was asked for. -/
  | stringType
  /-- A whole number was asked for. -/
  | intType
  /-- A text that is no whole number. -/
  | intParsing
  /-- A number that is too large to be read. -/
  | intParsingSize
  /-- A number with a fraction. -/
  | intFromFloat
  /-- A number that is not finite. -/
  | finiteNumber
  /-- Settings do not change. -/
  | frozenInstance
  deriving DecidableEq, Repr

namespace Issue

/-- The word for an issue. -/
def code : Issue → Text
  | .stringType => "string_type"
  | .intType => "int_type"
  | .intParsing => "int_parsing"
  | .intParsingSize => "int_parsing_size"
  | .intFromFloat => "int_from_float"
  | .finiteNumber => "finite_number"
  | .frozenInstance => "frozen_instance"

/-- The message of an issue. -/
def message : Issue → Text
  | .stringType => "Input should be a valid string"
  | .intType => "Input should be a valid integer"
  | .intParsing => "Input should be a valid integer, unable to parse string as an integer"
  | .intParsingSize =>
    "Unable to parse input string as an integer, exceeded maximum size"
  | .intFromFloat => "Input should be a valid integer, got a number with a fractional part"
  | .finiteNumber => "Input should be a finite number"
  | .frozenInstance => "Instance is frozen"

end Issue

/-- What is wrong with a field. -/
structure Detail where
  /-- The name of the field. -/
  field : Text
  /-- The issue. -/
  issue : Issue
  deriving DecidableEq

namespace Settings

/-- The port that a text gives. -/
def portOfText (t : Text) : Except Issue Int :=
  (Numeral.ofText t).mapError fun
    | .malformed => .intParsing
    | .tooLong => .intParsingSize

/-- The port that a floating-point number gives: it has no fraction and lies strictly inside
the range of 64 bits. -/
def portOfFloat (x : Rat) : Except Issue Int :=
  if x.den ≠ 1 then .error .intFromFloat
  else if x.num.natAbs < Nat.pow 2 63 then .ok x.num
  else .error .intParsingSize

/-- The port that a value gives. -/
def portOf : RawValue → Except Issue Int
  | .integer n => .ok n
  | .boolean b => .ok (if b then 1 else 0)
  | .float x =>
    match x.number? with
    | some y => portOfFloat y
    | none => .error .finiteNumber
  | .text t => portOfText t
  | .null => .error .intType
  | .list _ => .error .intType
  | .record _ => .error .intType

/-- The text that a value gives. -/
def textOf : RawValue → Except Issue Text
  | .text t => .ok t
  | _ => .error .stringType

end Settings

end StaticServer
