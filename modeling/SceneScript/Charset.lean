import SceneScript.Charset.PairTable
import SceneScript.Charset.Big5Rows
import SceneScript.Charset.ShiftJisRows
/-!
# Character sets of the scripts

The Japanese scripts hold Shift-JIS text, the traditional Chinese ones and the English patch built on them hold Big5.
Both readings are strict: text that is malformed anywhere has no reading, and a character without a code is reported.
-/
namespace SceneScript

inductive Charset where
  | big5
  | shiftJis
deriving DecidableEq, Repr, Inhabited

/-- Two-byte Big5. Of a character's codes the first is written, save for six box and numeral characters. -/
def big5Table : PairTable :=
  PairTable.build [(0x40, 0x7E), (0xA1, 0xFE)] big5Rows (0xA1 ≤ ·)
    ['\u2550', '\u255E', '\u2561', '\u256A', '\u5341', '\u5345']

/-- Two-byte Shift-JIS without the user-defined rows. The rows `ED` and `EE` repeat characters and are only read. -/
def shiftJisTable : PairTable :=
  PairTable.build [(0x40, 0x7E), (0x80, 0xFC)] shiftJisRows (fun lead => lead != 0xED && lead != 0xEE) []

namespace Charset

def flipped : Charset → Charset
  | big5 => shiftJis
  | shiftJis => big5

/-- The name a character set is reported and stored under. -/
def name : Charset → String
  | big5 => "big5"
  | shiftJis => "sjis"

/-- The accepted spellings of a character set. -/
def ofName? (s : String) : Option Charset :=
  if s = "big5" then some big5
  else if s = "sjis" ∨ s = "shift_jis" ∨ s = "shift-jis" then some shiftJis
  else none

/-- The character a byte stands for alone. -/
def single? (cs : Charset) (b : UInt8) : Option Char :=
  if b < 0x80 then some (Char.ofNat b.toNat)
  else match cs with
    | big5 => none
    | shiftJis =>
      if b = 0x80 then some '\u0080'
      else if 0xA1 ≤ b ∧ b ≤ 0xDF then some (Char.ofNat (0xFF61 + (b.toNat - 0xA1)))
      else none

/-- Big5 codes for a letter with a separate mark. -/
def big5Marked? (lead trail : UInt8) : Option Text :=
  if lead = 0x88 then
    if trail = 0x62 then some ['\u00CA', '\u0304']
    else if trail = 0x64 then some ['\u00CA', '\u030C']
    else if trail = 0xA3 then some ['\u00EA', '\u0304']
    else if trail = 0xA5 then some ['\u00EA', '\u030C']
    else none
  else none

/-- User-defined Shift-JIS codes, which stand for the private use area in order. -/
def userDefined? (lead trail : UInt8) : Option Char :=
  if 0xF0 ≤ lead ∧ lead ≤ 0xF9 then
    (shiftJisTable.runs.place? trail.toNat).map fun place => Char.ofNat (0xE000 + 188 * (lead.toNat - 0xF0) + place)
  else none

/-- The text a two-byte code stands for. -/
def pair? (cs : Charset) (lead trail : UInt8) : Option Text :=
  match cs with
  | big5 => (big5Marked? lead trail).or ((big5Table.char? lead trail).map ([·]))
  | shiftJis => ((userDefined? lead trail).or (shiftJisTable.char? lead trail)).map ([·])

/-- Reads bytes as text; malformed bytes have no reading. -/
def decode? (cs : Charset) (bytes : Bytes) : Option Text :=
  go [] bytes
where
  go (done : Text) : Bytes → Option Text
    | [] => some done.reverse
    | [b] => (cs.single? b).map fun c => (c :: done).reverse
    | b :: t :: rest =>
      match cs.single? b with
      | some c => go (c :: done) (t :: rest)
      | none =>
        match cs.pair? b t with
        | some cs' => go (cs'.reverse ++ done) rest
        | none => none

/-- The bytes a character is written as. -/
def encodeChar? (cs : Charset) (c : Char) : Option Bytes :=
  if c.toNat < 0x80 then some [UInt8.ofNat c.toNat]
  else match cs with
    | big5 => (big5Table.code? c).map fun (lead, trail) => [lead, trail]
    | shiftJis =>
      if c = '\u0080' then some [0x80]
      else if c = '\u00A5' then some [0x5C]
      else if c = '\u203E' then some [0x7E]
      else if 0xFF61 ≤ c.toNat ∧ c.toNat ≤ 0xFF9F then some [UInt8.ofNat (0xA1 + (c.toNat - 0xFF61))]
      else
        let written := if c = '\u2212' then '\uFF0D' else c
        (shiftJisTable.code? written).map fun (lead, trail) => [lead, trail]

/-- Writes a text, or gives the first character that has no code. -/
def encode (cs : Charset) (t : Text) : Except Char Bytes :=
  match t.find? fun c => (cs.encodeChar? c).isNone with
  | some c => .error c
  | none => .ok (t.flatMap fun c => (cs.encodeChar? c).getD [])

@[simp] theorem flipped_flipped (cs : Charset) : cs.flipped.flipped = cs := by
  cases cs <;> rfl

theorem ofName?_name (cs : Charset) : ofName? cs.name = some cs := by
  cases cs <;> decide

@[simp] theorem encode_nil (cs : Charset) : cs.encode [] = .ok [] := rfl

end Charset
end SceneScript
