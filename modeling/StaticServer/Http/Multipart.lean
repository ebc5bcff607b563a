import StaticServer.Http.Range

/-!
# Several ranges in one body

Each range becomes a part: a line with the boundary, headers that give the type and the
range, an empty line, the bytes of the range and a line break. A line with the boundary
between double hyphens ends the body.

How long the body is has to be said before any of it is made, so `length` tells it from the
ranges alone, by the digits of their numbers.
-/

namespace StaticServer.Multipart

/-- The line break of messages. -/
def lineBreak : Text :=
  "\r\n"

/-- The media type of a body with this boundary. -/
def mediaType (boundary : Text) : Text :=
  "multipart/byteranges; boundary=" ++ boundary

/-- What stands before the bytes of a range. -/
def partHead (boundary contentType : Text) (size : Nat) (r : ByteRange) : Text :=
  "--" ++ (boundary ++ (lineBreak ++ ("Content-Type: " ++ (contentType ++ (lineBreak ++
    ("Content-Range: " ++ (r.contentRange size ++ (lineBreak ++ lineBreak))))))))

/-- The part of a range. -/
def part (boundary contentType : Text) (content : Bytes) (r : ByteRange) : Bytes :=
  Text.Utf8.encode (partHead boundary contentType content.length r) ++
    (r.slice content ++ Text.Utf8.encode lineBreak)

/-- What ends the body. -/
def close (boundary : Text) : Text :=
  "--" ++ (boundary ++ "--")

/-- The body with the parts of some ranges. -/
def body (boundary contentType : Text) (content : Bytes) (rs : List ByteRange) : Bytes :=
  rs.flatMap (part boundary contentType content) ++ Text.Utf8.encode (close boundary)

/-- How many bytes a part has beside the boundary, the type, the numbers and the bytes of its
range: two hyphens, the names of two headers, what stands between the numbers, and five line
breaks. -/
def fixedLength : Nat :=
  49

/-- How many bytes the part of a range has, for a file of some size. -/
def partLength (boundary contentType : Text) (size : Nat) (r : ByteRange) : Nat :=
  (Text.ofInt r.first).length + (Text.ofInt (r.stop - 1)).length +
    (fixedLength + Text.Utf8.size boundary + Text.Utf8.size contentType +
      (Text.ofNat size).length) + r.length

/-- How many bytes the body with the parts of some ranges has, for a file of some size. -/
def length (boundary contentType : Text) (size : Nat) (rs : List ByteRange) : Nat :=
  rs.foldr (fun r n ↦ partLength boundary contentType size r + n) (4 + Text.Utf8.size boundary)

end StaticServer.Multipart
