import SceneScript.Bytes
/-!
# Archive images

An image begins with `AFS`, the number of entries and a table of the offset and size of each. The entries follow, each
at a multiple of the block size; then, for each entry, a record with its name, its timestamp and its size again. Two
words at the end of the block that holds the table tell where the records are.
-/
namespace SceneScript

/-- Entries begin at multiples of this. -/
def blockSize : Nat := 0x800

/-- The next multiple of the block size. -/
def roundUp (n : Nat) : Nat := (n + (blockSize - 1)) / blockSize * blockSize

/-- An offset rounded up to a multiple of a power of two, by masking the low bits. -/
def alignBits (offset alignment : UInt64) : UInt64 := (offset + alignment - 1) &&& ~~~(alignment - 1)

/-- Images hold no more entries than this. -/
def maxEntries : Nat := 0xFFFFF

/-- The bytes of a record for a name. -/
def nameLength : Nat := 32

def recordLength : Nat := 0x30

/-- Offsets and sizes are below this. -/
def offsetBound : Nat := 0x100000000

structure Timestamp where
  year : UInt16
  month : UInt16
  day : UInt16
  hour : UInt16
  minute : UInt16
  second : UInt16
deriving DecidableEq, Repr

namespace Timestamp

def zero : Timestamp := ⟨0, 0, 0, 0, 0, 0⟩

def fields (t : Timestamp) : List UInt16 := [t.year, t.month, t.day, t.hour, t.minute, t.second]

def bytes (t : Timestamp) : Bytes := t.fields.flatMap fun w => Bytes.word16 w.toNat

/-- The word of a timestamp by number, from its bytes. -/
def wordAt (bytes : Bytes) (k : Nat) : UInt16 := UInt16.ofNat (Bytes.value ((bytes.drop (2 * k)).take 2))

def ofBytes (bytes : Bytes) : Timestamp :=
  ⟨wordAt bytes 0, wordAt bytes 1, wordAt bytes 2, wordAt bytes 3, wordAt bytes 4, wordAt bytes 5⟩

end Timestamp

/-- An entry as an image lists it. -/
structure Listed where
  name : String
  timestamp : Timestamp
  offset : Nat
  size : Nat
deriving DecidableEq, Repr

/-- The parts of an image that are read in order. -/
inductive ImagePart where
  | header
  | headerTable
  | footer
deriving DecidableEq, Repr

/-- Why bytes are no image. -/
inductive ImageFault where
  | badMagic (found : Bytes)
  | tooManyEntries (count : Nat)
  | truncated (part : ImagePart)
deriving DecidableEq, Repr

def magic : Bytes := [0x41, 0x46, 0x53]

namespace Image

/-- The offsets and sizes of a table of entries. -/
def readTable (count : Nat) (done : List (Nat × Nat)) (bytes : Bytes) : Option (List (Nat × Nat)) :=
  match count with
  | 0 => some done.reverse
  | count + 1 =>
    let cell := bytes.take 8
    if cell.length < 8 then none
    else readTable count ((Bytes.value (cell.take 4), Bytes.value (cell.drop 4)) :: done) (bytes.drop 8)

/-- The name in a record, up to its first zero. -/
def readName (record : Bytes) : String :=
  String.ofList (Utf8.decodeLossy ((record.take nameLength).takeWhile (· != 0)))

/-- Puts the records after a table to its entries. -/
def readRecords (done : List Listed) (bytes : Bytes) : List (Nat × Nat) → Option (List Listed)
  | [] => some done.reverse
  | (offset, size) :: more =>
    let record := bytes.take recordLength
    if record.length < recordLength then none
    else
      readRecords (⟨readName record, Timestamp.ofBytes (record.drop nameLength), offset, size⟩ :: done)
        (bytes.drop recordLength) more

/-- Where the records of a table's entries begin: after the entry that reaches farthest. -/
def recordsOffset (table : List (Nat × Nat)) : Nat :=
  roundUp (table.foldl (fun stop (offset, size) => max stop (offset + size)) 0)

def list (bytes : Bytes) : Except ImageFault (List Listed) :=
  if (bytes.take 4).length < 4 then .error (.truncated .header)
  else if bytes.take 3 ≠ magic then .error (.badMagic (bytes.take 3))
  else if (bytes.take 8).length < 8 then .error (.truncated .header)
  else
    let count := Bytes.value ((bytes.drop 4).take 4)
    if maxEntries < count then .error (.tooManyEntries count)
    else
      match readTable count [] (bytes.drop 8) with
      | none => .error (.truncated .headerTable)
      | some table =>
        match readRecords [] (bytes.drop (recordsOffset table)) table with
        | none => .error (.truncated .footer)
        | some entries => .ok entries

structure Content where
  name : String
  timestamp : Timestamp
  data : Bytes
deriving DecidableEq, Repr

/-- Zeros up to the next multiple of the block size. -/
def padding (size : Nat) : Bytes := List.replicate (roundUp size - size) 0

/-- Where the first entry begins: after the table and the two words that tell where the records are. -/
def headerEnd (count : Nat) : Nat := roundUp (8 + 8 * count + 8)

/-- The offset of each entry, and at last that of the records. -/
def offsetsFrom (offset : Nat) : List Content → List Nat
  | [] => [offset]
  | c :: more => offset :: offsetsFrom (roundUp (offset + c.data.length)) more

/-- The name of an entry as a record holds it: cut off after its bytes, or filled up with zeros. -/
def nameField (name : String) : Bytes :=
  let bytes := (Utf8.encode name.toList).take nameLength
  bytes ++ List.replicate (nameLength - bytes.length) 0

def recordOf (c : Content) : Bytes := nameField c.name ++ (c.timestamp.bytes ++ Bytes.word32 c.data.length)

/-- The image of entries, laid out in order; none if an offset or a size does not fit its word. -/
def build? (contents : List Content) : Option Bytes :=
  let count := contents.length
  let offsets := offsetsFrom (headerEnd count) contents
  if offsets.any (offsetBound ≤ ·) || contents.any fun c => offsetBound ≤ c.data.length then none
  else
    let table := (offsets.zip contents).flatMap fun (offset, c) =>
      Bytes.word32 offset ++ Bytes.word32 c.data.length
    let gap := List.replicate (headerEnd count - (8 + 8 * count + 8)) 0
    let location := Bytes.word32 (offsets.getLast?.getD 0) ++ Bytes.word32 (recordLength * count)
    let payloads := contents.flatMap fun c => c.data ++ padding c.data.length
    some (magic ++ 0 :: (Bytes.word32 count ++ (table ++ (gap ++ (location ++ (payloads ++
      contents.flatMap recordOf))))))

end Image
end SceneScript
