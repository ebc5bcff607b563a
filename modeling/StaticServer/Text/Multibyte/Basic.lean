import StaticServer.Text.Grid.Basic
import StaticServer.Text.Fault

/-!
# Characters in several bytes

An encoding in which a character takes one byte or several reads them one after the other: what
stands at the start of the bytes that are left (`Reading`) says how many of them it takes, or
what is wrong with them. Some encodings remember what they have been told on the way; that is
their state.
-/

namespace StaticServer.Text

/-- What stands at the start of some bytes. -/
inductive Reading (σ : Type) where
  /-- A text, in so many bytes beside the first one, and the state behind it. -/
  | text (t : Text) (more : Nat) (next : σ)
  /-- So many bytes that stand for nothing. -/
  | illegal (length : Nat)
  /-- The beginning of something that would end behind the last byte. -/
  | unfinished

namespace Reading

/-- The character of a number, in so many bytes beside the first one. -/
def ofNat {σ : Type} (n more : Nat) (next : σ) : Reading σ :=
  .text [character n] more next

/-- A text in two bytes, if they stand for one. -/
def pair {σ : Type} (t : Option Text) (next : σ) : Reading σ :=
  match t with
  | some t => .text t 1 next
  | none => .illegal 1

end Reading

/-- An encoding whose characters take one byte or several. -/
structure Multibyte where
  /-- Its names, the first of which messages show. -/
  names : List Text
  /-- The text of some bytes. -/
  decode : Bytes → Except Malformed Text

namespace Multibyte

/-- The text of the bytes that follow `position` others, leaving out so many bytes at their
start, where `read` says what stands at the start of bytes, the first of which it is given as a
number. -/
def decodeFrom {σ : Type} (name : Text) (read : σ → Nat → Bytes → Reading σ) :
    Nat → Nat → σ → Bytes → Except Malformed Text
  | _, _, _, [] => .ok []
  | position, skip + 1, s, _ :: rest => decodeFrom name read (position + 1) skip s rest
  | position, 0, s, b :: rest =>
    match read s b.toNat rest with
    | .text t more next => (decodeFrom name read (position + 1) more next rest).map (t ++ ·)
    | .illegal length => .error ⟨name, position, length, b, "illegal multibyte sequence"⟩
    | .unfinished =>
      .error ⟨name, position, rest.length + 1, b, "incomplete multibyte sequence"⟩

/-- The encoding that knows `start` at the start, and what stands at the start of bytes. -/
def ofReader {σ : Type} (names : List Text) (start : σ) (read : σ → Nat → Bytes → Reading σ) :
    Multibyte :=
  ⟨names, decodeFrom (names.headD []) read 0 0 start⟩

/-- The encoding that has nothing to remember. -/
def stateless (names : List Text) (read : Nat → Bytes → Reading Unit) : Multibyte :=
  ofReader names () fun _ ↦ read

/-- What stands at the start of some bytes, where bytes below 128 are ASCII and two others stand
for the text that is given for their numbers. -/
def readPairs (text? : Nat → Nat → Option Text) (b : Nat) (rest : Bytes) : Reading Unit :=
  if b < 0x80 then .ofNat b 0 ()
  else
    match rest with
    | [] => .unfinished
    | c :: _ => .pair (text? b c.toNat) ()

/-- The encoding where bytes below 128 are ASCII and two others stand for one text. -/
def ofPairs (names : List Text) (text? : Nat → Nat → Option Text) : Multibyte :=
  stateless names (readPairs text?)

end Multibyte

/-- The text of the cell of a plane that two bytes above 128 stand for. -/
def Grid.high? (g : Grid) (row column : Nat) : Option Text :=
  if 0x80 ≤ row && 0x80 ≤ column then (g.char? (row - 0x80) (column - 0x80)).map ([·])
  else none

/-- The numbers from `n` on, so many of them, and of these those that are not in an increasing
list. -/
def numbersOutside : Nat → Nat → List Nat → List Nat
  | _, 0, _ => []
  | n, count + 1, [] => n :: numbersOutside (n + 1) count []
  | n, count + 1, m :: ms =>
    if n = m then numbersOutside (n + 1) count ms
    else n :: numbersOutside (n + 1) count (m :: ms)

end StaticServer.Text
