import StaticServer.Http.Message
import StaticServer.Order.Insertion

/-!
# Range headers

A Range header asks for parts of a file of some size. `ByteRange.parts` reads the parts one
by one and skips what is no part; `ByteRange.select` decides what the whole header comes to:
ranges in increasing order that neither overlap nor touch, or the reason why there are none.
-/

namespace StaticServer

/-- The bytes from `first` up to, and not including, `stop`. -/
structure ByteRange where
  /-- The first byte. -/
  first : Int
  /-- The byte after the last one. -/
  stop : Int
  deriving DecidableEq, Repr

/-- Why a Range header is a bad request. -/
inductive RangeFault where
  /-- There is no equals sign. -/
  | malformed
  /-- The unit is not bytes. -/
  | otherUnit
  /-- No part can be read. -/
  | noRange
  /-- A part ends before it starts. -/
  | emptyRange
  deriving DecidableEq, Repr

/-- The message of a bad Range header. -/
def RangeFault.message : RangeFault → Text
  | .malformed => "Malformed range header."
  | .otherUnit => "Only support bytes range"
  | .noRange => "Range header: range must be requested"
  | .emptyRange => "Range header: start must be less than end"

/-- What a Range header comes to. -/
inductive RangeRequest where
  /-- It is left aside. -/
  | ignored
  /-- It cannot be understood. -/
  | badRequest (fault : RangeFault)
  /-- It asks for bytes that the file does not have. -/
  | unsatisfiable
  /-- It asks for these ranges. -/
  | ranges (rs : List ByteRange)
  deriving DecidableEq, Repr

namespace ByteRange

/-- A header with more parts than this is left aside. -/
def partLimit : Nat :=
  100

/-- The range between a number, if one is given, and another: the bytes from the first
number through the last, those from the first number on, or so many at the end. -/
def ofEnds? (size : Nat) (start stop : Text) : Option ByteRange :=
  if start.isEmpty then
    (Text.toInt? stop).map fun n ↦ ⟨max (size - n) 0, size⟩
  else do
    let first ← Text.toInt? start
    if stop.isEmpty then some ⟨first, size⟩
    else
      let last ← Text.toInt? stop
      some ⟨first, if last < size then last + 1 else size⟩

/-- The range of one part of a header, if it can be read as one. -/
def ofPart? (size : Nat) (part : Text) : Option ByteRange :=
  match Text.cut '-' (Text.trim part) with
  | (_, none) => none
  | (start, some stop) => ofEnds? size (Text.trim start) (Text.trim stop)

/-- The ranges of the parts that can be read, in the order of the header. -/
def parts (size : Nat) (t : Text) : List ByteRange :=
  (t.splitOn ',').filterMap (ofPart? size)

/-- The order of ranges by their first bytes and, where these agree, by their ends. -/
def le (a b : ByteRange) : Bool :=
  a.first < b.first || (a.first = b.first && a.stop ≤ b.stop)

/-- Merges ranges, sorted by their first bytes, into the range before them as long as they
overlap or touch it. -/
def mergeFrom (r : ByteRange) : List ByteRange → List ByteRange
  | [] => [r]
  | s :: rest =>
    if s.first ≤ r.stop then mergeFrom ⟨r.first, max r.stop s.stop⟩ rest
    else r :: mergeFrom s rest

/-- The ranges in increasing order, merged where they overlap or touch. -/
def merge (rs : List ByteRange) : List ByteRange :=
  match Order.sort le rs with
  | [] => []
  | r :: rest => mergeFrom r rest

/-- What a Range header comes to for a file of some size. -/
def select (size : Nat) (header : Text) : RangeRequest :=
  match Text.cut '=' header with
  | (_, none) => .badRequest .malformed
  | (unit, some list) =>
    if Text.asciiLower (Text.trim unit) ≠ "bytes" then .badRequest .otherUnit
    else if partLimit < (list.splitOn ',').length then .ignored
    else
      let rs := parts size list
      if rs.isEmpty then .badRequest .noRange
      else if rs.any fun r ↦ r.first < 0 || (size : Int) ≤ r.first then .unsatisfiable
      else if rs.any fun r ↦ r.stop ≤ r.first then .badRequest .emptyRange
      else .ranges (merge rs)

/-- How many bytes a range has. -/
def length (r : ByteRange) : Nat :=
  (r.stop - r.first).toNat

/-- The bytes of a range of some content. -/
def slice (r : ByteRange) (content : Bytes) : Bytes :=
  (content.drop r.first.toNat).take r.length

/-- A range as a Content-Range header gives it. -/
def contentRange (r : ByteRange) (size : Nat) : Text :=
  "bytes " ++ (Text.ofInt r.first ++ '-' :: Text.ofInt (r.stop - 1) ++ '/' :: Text.ofNat size)

/-- The Content-Range header when no range can be served. -/
def noContentRange (size : Nat) : Text :=
  "bytes */" ++ Text.ofNat size

end ByteRange

end StaticServer
