import ModuleGraph.Path.Relative

/-!
# Paths of bytes

On the disk a path is bytes. Those of the slash and the dot mean something in it, and the others
need not be the bytes of a text. What is shown of such a path is read as UTF-8, with a replacement
for whatever is no character.
-/

namespace ModuleGraph

/-! ## Bytes read as UTF-8 -/

namespace Utf8

/-- The bytes of a text. -/
def encode (text : String) : List UInt8 :=
  text.toList.flatMap String.utf8EncodeChar

/-- What is shown for bytes that are no character. -/
def replacement : Char :=
  '\uFFFD'

/-- The first bytes of a character: the number that they stand for so far, how many bytes are
missing, and the least and the greatest that can be the next one. -/
structure Beginning where
  number : Nat
  missing : Nat
  least : Nat := 0x80
  greatest : Nat := 0xBF
  deriving DecidableEq, Repr

/-- The beginning of a character of several bytes, by its first one. The bounds of the second byte
leave out what has a shorter spelling, the surrogates, and what is beyond the last character. -/
def Beginning.ofByte? (byte : UInt8) : Option Beginning :=
  let value := byte.toNat
  if value < 0xC2 then none
  else if value < 0xE0 then some { number := value % 32, missing := 1 }
  else if value < 0xF0 then
    some
      { number := value % 16
        missing := 2
        least := if value = 0xE0 then 0xA0 else 0x80
        greatest := if value = 0xED then 0x9F else 0xBF }
  else if value < 0xF5 then
    some
      { number := value % 8
        missing := 3
        least := if value = 0xF0 then 0x90 else 0x80
        greatest := if value = 0xF4 then 0x8F else 0xBF }
  else none

/-- What a byte completes if no beginning is before it, and the beginning that it is. -/
def first (byte : UInt8) : List Char × Option Beginning :=
  if byte.toNat < 0x80 then ([Char.ofNat byte.toNat], none)
  else
    match Beginning.ofByte? byte with
    | some beginning => ([], some beginning)
    | none => ([replacement], none)

/-- What the byte behind a beginning completes, and the beginning that is longer by it. If it
cannot come there, the beginning is replaced, and the byte is looked at again. -/
def Beginning.next (beginning : Beginning) (byte : UInt8) : List Char × Option Beginning :=
  let value := byte.toNat
  if beginning.least ≤ value && value ≤ beginning.greatest then
    let number := 64 * beginning.number + value % 64
    if beginning.missing = 1 then ([Char.ofNat number], none)
    else ([], some { number := number, missing := beginning.missing - 1 })
  else
    let (complete, beginning) := first byte
    (replacement :: complete, beginning)

/-- The characters that bytes are, read behind a beginning if there is one. -/
def charactersFrom : Option Beginning → List UInt8 → List Char
  | none, [] => []
  | some _, [] => [replacement]
  | none, byte :: rest =>
    let (complete, beginning) := first byte
    complete ++ charactersFrom beginning rest
  | some beginning, byte :: rest =>
    let (complete, beginning) := beginning.next byte
    complete ++ charactersFrom beginning rest

/-- The text of bytes. A beginning that the next byte does not continue is replaced as a whole, and
so is every byte that begins no character. -/
def lossy (bytes : List UInt8) : String :=
  String.ofList (charactersFrom none bytes)

end Utf8

/-! ## Paths -/

namespace BytePath

/-- A path of bytes as a text that has one character for each of them. Its slashes and dots are
those of the path. -/
def text (path : List UInt8) : String :=
  String.ofList (path.map Char.ofUInt8)

/-- The bytes for which the characters of a text stand. -/
def ofText (text : String) : List UInt8 :=
  text.toList.map Char.toUInt8

/-- The bytes that a reader who knows the root directory is shown of a path. -/
def shown (root : Option (List UInt8)) (path : List UInt8) : List UInt8 :=
  ofText (Path.display (root.map text) (text path))

/-- A path as it is shown to a reader who knows the root directory. -/
def display (root : Option (List UInt8)) (path : List UInt8) : String :=
  Utf8.lossy (shown root path)

end BytePath

end ModuleGraph
