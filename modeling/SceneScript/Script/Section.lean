import SceneScript.Text.Utf8
/-!
# Record files

Entries named `DATA…` hold no instructions but tables of records, always in the same order.
-/
namespace SceneScript

/-- A table of records of one length. -/
structure Section where
  name : Text
  count : Nat
  recordLength : Nat
  /-- Where in a record the pointers to its strings stand. -/
  cells : List Nat
deriving DecidableEq, Repr

/-- The tables of a record file in order. -/
def recordSections : List Section := [
  ⟨"name".toList, 131, 16, [0, 4]⟩,
  ⟨"route".toList, 66, 24, [4, 8]⟩,
  ⟨"route2".toList, 4, 24, [8, 12]⟩,
  ⟨"unk".toList, 1, 0x59C, []⟩,
  ⟨"scene".toList, 91, 8, [0]⟩,
  ⟨"unk2".toList, 1, 0x6A4, []⟩,
  ⟨"string".toList, 387, 4, [0]⟩,
  ⟨"chunk".toList, 1, 4, []⟩,
  ⟨"title".toList, 30, 8, [0]⟩,
  ⟨"chunk".toList, 1, 4, []⟩,
  ⟨"string".toList, 57, 4, [0]⟩,
  ⟨"chunk".toList, 1, 4, []⟩,
  ⟨"string".toList, 2, 4, [0]⟩,
  ⟨"footer".toList, 1, 0x14, []⟩]

/-- The records of a record file in order, each as its section. -/
def records : List Section := recordSections.flatMap fun s => List.replicate s.count s

/-- Whether an entry of this name is a record file. -/
def isRecordFile (name : String) : Bool := "DATA".toList.isPrefixOf name.toList

/-- The bytes of a record file between its header and its strings. -/
theorem recordSections_size : recordSections.foldl (fun n s => n + s.count * s.recordLength) 0 = 0x25E0 := by decide

end SceneScript
