import StaticServer.Text.Charset.Table
import StaticServer.Text.Grid.Gb2312
import StaticServer.Text.Grid.KsX1001
import StaticServer.Text.Multibyte.Japanese

/-!
# Sets called up by escape sequences

ISO 2022 has bytes below 128 only. There are three places for sets of characters, all of which
hold ASCII at first, and an escape sequence puts another set into one of them. Bytes stand for
the characters of the first place, or after a shift for those of the second one; a byte behind
a certain escape sequence stands for a character of the third place.
-/

namespace StaticServer.Text.Multibyte

/-! ### Sets -/

/-- A set of characters that can be put into a place. -/
inductive CodedSet where
  /-- A character takes one byte. -/
  | single (text? : Nat → Option Text)
  /-- A character takes two bytes. -/
  | double (text? : Nat → Nat → Option Text)
  /-- A character takes one byte, and only the third place can hold it. -/
  | upper (char? : Nat → Option Char)

/-- How an escape sequence names a set: by its last byte, and by whether characters of the set
take two bytes. -/
structure SetName where
  /-- Do characters take two bytes? -/
  isDouble : Bool
  /-- The last byte. -/
  final : Char
  deriving DecidableEq

/-- The text of a cell of JIS X 0208, with the sign in the place of the
backslash wide. -/
def wideJis0208? (row column : Nat) : Option Text :=
  if row = 0x21 && column = 0x40 then some ['＼'] else jis0208? row column

/-- The text of a cell of the first plane of JIS X 0213, with the sign in the place of the
backslash wide. -/
def wideJis0213? (new : Bool) (row column : Nat) : Option Text :=
  if row = 0x21 && column = 0x40 then some ['＼'] else jis0213First? new row column

/-- The character in the upper half of the charset for Latin. -/
def latinChar? (b : Nat) : Option Char :=
  if 0x80 ≤ b then some (Char.ofNat b) else none

/-- The Greek character in the upper half of its charset as it was before signs were added. -/
def greekChar? (b : Nat) : Option Char :=
  if [0xA4, 0xA5, 0xAA].contains b then none
  else (Charset.standard.find? (·.names.contains "greek")).bind (·.char? (UInt8.ofNat b))

/-- Latin letters of one byte, with a yen sign and an overline. -/
def romanSet : SetName × CodedSet :=
  (⟨false, 'J'⟩, .single fun b ↦ some [Char.ofNat (romanNumber b)])

/-- Katakana of half width. -/
def katakanaSet : SetName × CodedSet :=
  (⟨false, 'I'⟩, .single fun b ↦
    if isKatakana (b + 0x80) then some [Char.ofNat (katakana (b + 0x80))] else none)

/-- JIS X 0208, by either of its names. -/
def jis0208Sets : List (SetName × CodedSet) :=
  [(⟨true, 'B'⟩, .double wideJis0208?), (⟨true, '@'⟩, .double wideJis0208?)]

/-- JIS X 0212. -/
def jis0212Set : SetName × CodedSet :=
  (⟨true, 'D'⟩, .double jis0212?)

/-- The first plane of JIS X 0213 as it was at first. -/
def jis0213OldSet : SetName × CodedSet :=
  (⟨true, 'O'⟩, .double (wideJis0213? false))

/-- The first plane of JIS X 0213 of 2004. -/
def jis0213NewSet : SetName × CodedSet :=
  (⟨true, 'Q'⟩, .double (wideJis0213? true))

/-- The second plane of JIS X 0213, which is that of 2004 for both of the first ones. -/
def jis0213SecondSet : SetName × CodedSet :=
  (⟨true, 'P'⟩, .double (jis0213Second? true))

/-- KS X 1001. -/
def ksX1001Set : SetName × CodedSet :=
  (⟨true, 'C'⟩, .double fun row column ↦ (Grid.ksX1001.char? row column).map ([·]))

/-- GB 2312. -/
def gb2312Set : SetName × CodedSet :=
  (⟨true, 'A'⟩, .double fun row column ↦ (Grid.gb2312.char? row column).map ([·]))

/-- The upper halves of the charsets for Latin and for Greek. -/
def upperSets : List (SetName × CodedSet) :=
  [(⟨false, 'A'⟩, .upper latinChar?), (⟨false, 'F'⟩, .upper greekChar?)]

/-! ### Places -/

/-- The places for sets. -/
inductive Place where
  /-- The place of plain bytes. -/
  | first
  /-- The place of bytes after a shift. -/
  | second
  /-- The place of single bytes. -/
  | third
  deriving DecidableEq

/-- What has been called up so far; no set stands for ASCII. -/
structure CalledUp where
  /-- The set in the first place. -/
  first : Option CodedSet
  /-- The set in the second place. -/
  second : Option CodedSet
  /-- The set in the third place. -/
  third : Option CodedSet
  /-- Do bytes stand for characters of the second place? -/
  isShifted : Bool
  /-- Does an escape sequence go on that has no meaning here? -/
  isForeign : Bool

namespace CalledUp

/-- Nothing has been called up. -/
def nothing : CalledUp :=
  ⟨none, none, none, false, false⟩

/-- Puts a set into a place. -/
def put (s : CalledUp) (p : Place) (set : Option CodedSet) : CalledUp :=
  match p with
  | .first => { s with first := set }
  | .second => { s with second := set }
  | .third => { s with third := set }

/-- The set that plain bytes stand for. -/
def current (s : CalledUp) : Option CodedSet :=
  if s.isShifted then s.second else s.first

end CalledUp

/-- What can be called up in an encoding, and how. -/
structure Repertoire where
  /-- The sets. -/
  sets : List (SetName × CodedSet)
  /-- Are there shifts? -/
  hasShift : Bool
  /-- Is there a third place? -/
  hasThird : Bool
  /-- Can an escape sequence have another one in front that names an edition? -/
  hasEdition : Bool

/-! ### Escape sequences -/

/-- The byte that starts an escape sequence. -/
def escapeByte : Nat :=
  0x1B

/-- Does a byte end an escape sequence? -/
def endsEscape (b : UInt8) : Bool :=
  (0x41 ≤ b && b ≤ 0x5A) || b = 0x40

/-- Does a byte behind the first one make an escape sequence put a set into a place? -/
def startsDesignation (b : UInt8) : Bool :=
  "()$.&".toList.contains (Char.ofNat b.toNat)

/-- Where an escape sequence ends. -/
inductive EscapeEnd where
  /-- After so many bytes. -/
  | after (length : Nat)
  /-- Behind the last byte. -/
  | beyond
  /-- Nowhere, as it is too long. -/
  | never
  deriving DecidableEq

/-- Where the escape sequence ends, so many bytes of which may still come; what names an edition
does not end it. -/
def escapeEnd (hasEdition : Bool) : Nat → Bytes → EscapeEnd
  | 0, _ => .never
  | _ + 1, [] => .beyond
  | left + 1, b :: rest =>
    if endsEscape b then .after (16 - left)
    else if hasEdition && b = 0x26 && rest.head? = some 0x40 then
      escapeEnd hasEdition (left - 2) (rest.drop 2)
    else escapeEnd hasEdition left rest
termination_by left => left

/-- The place and the name of the set in an escape sequence, of which the first byte is left
out. -/
def designation? (r : Repertoire) : Text → Option (Place × SetName)
  | ['$', final] => some (.first, ⟨true, final⟩)
  | ['(', final] => some (.first, ⟨false, final⟩)
  | [')', final] => some (.second, ⟨false, final⟩)
  | ['.', final] => if r.hasThird then some (.third, ⟨false, final⟩) else none
  | ['$', '(', final] => some (.first, ⟨true, final⟩)
  | ['$', ')', final] => some (.second, ⟨true, final⟩)
  | [_, _, '\x1b', '$', 'B'] => if r.hasEdition then some (.first, ⟨true, 'B'⟩) else none
  | _ => none

/-- The set of a name, if there is one; no set stands for ASCII. -/
def Repertoire.set? (r : Repertoire) (name : SetName) : Option (Option CodedSet) :=
  if name = ⟨false, 'B'⟩ then some none else (r.sets.lookup name).map some

/-- What an escape sequence does that puts a set into a place. -/
def readDesignation (r : Repertoire) (s : CalledUp) (rest : Bytes) : Reading CalledUp :=
  match escapeEnd r.hasEdition 15 rest with
  | .beyond => .unfinished
  | .never => .illegal 1
  | .after length =>
    let called : Option CalledUp := do
      let (place, name) ← designation? r ((rest.take (length - 1)).map (Char.ofNat ·.toNat))
      let set ← r.set? name
      some (s.put place set)
    match called with
    | some next => .text [] (length - 1) next
    | none => .illegal length

/-- The character of the third place that a byte stands for. -/
def thirdChar? (s : CalledUp) (b : Nat) : Option Char :=
  match s.third with
  | none => if b < 0x80 then some (Char.ofNat b) else none
  | some (.upper char?) => char? (b ^^^ 0x80)
  | some _ => none

/-- What stands at the start of an escape sequence. -/
def readEscape (r : Repertoire) (s : CalledUp) (rest : Bytes) : Reading CalledUp :=
  match rest with
  | [] => .unfinished
  | b :: more =>
    if startsDesignation b then readDesignation r s rest
    else if r.hasThird && b = 0x4E then
      match more with
      | [] => .unfinished
      | c :: _ =>
        match thirdChar? s c.toNat with
        | some d => .text [d] 2 s
        | none => .illegal 3
    else .ofNat escapeByte 0 { s with isForeign := true }

/-! ### Bytes -/

/-- The text at the start of some bytes in a set. -/
def readSet (set : Option CodedSet) (s : CalledUp) (b : Nat) (rest : Bytes) :
    Reading CalledUp :=
  match set, rest with
  | none, _ => .ofNat b 0 s
  | some (.single text?), _ =>
    match text? b with
    | some t => .text t 0 s
    | none => .illegal 1
  | some (.double _), [] => .unfinished
  | some (.double text?), c :: _ =>
    match text? b c.toNat with
    | some t => .text t 1 s
    | none => .illegal 2
  | some (.upper _), _ => .illegal 1

/-- What stands at the start of some bytes. -/
def readCalledUp (r : Repertoire) (s : CalledUp) (b : Nat) (rest : Bytes) : Reading CalledUp :=
  if s.isForeign then .ofNat b 0 { s with isForeign := !endsEscape (UInt8.ofNat b) }
  else if b = escapeByte then readEscape r s rest
  else if r.hasShift && (b = 0x0E || b = 0x0F) then .text [] 0 { s with isShifted := b = 0x0E }
  else if b = 0x0A then .ofNat b 0 { s with isShifted := false }
  else if b < 0x20 then .ofNat b 0 s
  else if 0x80 ≤ b then .illegal 1
  else readSet s.current s b rest

/-! ### The encodings -/

/-- The encoding of names in which sets can be called up. -/
def ofRepertoire (names : List Text) (r : Repertoire) : Multibyte :=
  ofReader names .nothing (readCalledUp r)

/-- The repertoire of Japanese sets. -/
def japaneseRepertoire (sets : List (SetName × CodedSet)) : Repertoire :=
  ⟨sets, false, false, true⟩

/-- The encodings in which escape sequences call up sets. -/
def escapes : List Multibyte :=
  [ofRepertoire ["iso2022_jp", "csiso2022jp", "iso2022jp", "iso_2022_jp"]
      (japaneseRepertoire (romanSet :: jis0208Sets)),
    ofRepertoire ["iso2022_jp_1", "iso2022jp_1", "iso_2022_jp_1"]
      (japaneseRepertoire (romanSet :: jis0212Set :: jis0208Sets)),
    ofRepertoire ["iso2022_jp_2", "iso2022jp_2", "iso_2022_jp_2"]
      ⟨[romanSet, jis0212Set, ksX1001Set, gb2312Set] ++ jis0208Sets ++ upperSets,
        false, true, true⟩,
    ofRepertoire ["iso2022_jp_2004", "iso_2022_jp_2004", "iso2022jp_2004"]
      (japaneseRepertoire (jis0213NewSet :: jis0213SecondSet :: jis0208Sets.take 1)),
    ofRepertoire ["iso2022_jp_3", "iso2022jp_3", "iso_2022_jp_3"]
      (japaneseRepertoire (jis0213OldSet :: jis0213SecondSet :: jis0208Sets.take 1)),
    ofRepertoire ["iso2022_jp_ext", "iso2022jp_ext", "iso_2022_jp_ext"]
      (japaneseRepertoire (romanSet :: katakanaSet :: jis0212Set :: jis0208Sets)),
    ofRepertoire ["iso2022_kr", "csiso2022kr", "iso2022kr", "iso_2022_kr"]
      ⟨[ksX1001Set], true, false, false⟩]

end StaticServer.Text.Multibyte
