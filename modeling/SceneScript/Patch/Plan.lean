import SceneScript.Dump.Mnemonic
import SceneScript.Log
import SceneScript.Opcode
import SceneScript.Patch.Directive
/-!
# Planning a patch

The slot of a patch is the line it targets. An instruction of ten bytes or more is replaced by a jump of the same
length into an overflow block, which ends with a jump back to the line after the slot; or it is erased, which leaves a
no-op of the same length. Nothing after the slot moves.
-/
namespace SceneScript

/-- Why a patch cannot be applied. Patches are counted from one. -/
inductive PatchError where
  | malformed (directive : Text) (fault : DirectiveFault)
  | lineOutOfRange (index : Nat) (entry : String) (line : Nat)
  | mismatch (index : Nat) (entry : String) (line : Nat) (found : Text)
  | notAnInstruction (index : Nat) (entry : String) (line : Nat)
  | slotTooShort (index : Nat) (entry : String) (length : Nat)
  | emptyPayload (index : Nat) (entry : String)
  /-- There is no line after the slot to jump back to. -/
  | noResumeLine (index : Nat) (entry : String) (line : Nat)
  | missingTrailer (index : Nat) (entry : String)
deriving DecidableEq, Repr

/-- The smallest instruction that can hold a jump. -/
def minSlotLength : Nat := 10

namespace PatchError

def about (index : Nat) (entry : String) (text : String) : String :=
  "patch " ++ Text.showNumber index ++ " in " ++ entry ++ ": " ++ text

def message : PatchError → String
  | malformed directive fault =>
    "malformed patch directive '" ++ String.ofList directive ++ "': " ++ fault.message
  | lineOutOfRange index entry line =>
    about index entry ("line " ++ Text.showNumber line ++ " is past the end of the script")
  | mismatch index entry line found =>
    about index entry
      ("line " ++ Text.showNumber line ++ " does not match patch (found '" ++ String.ofList found ++ "')")
  | notAnInstruction index entry line =>
    about index entry ("line " ++ Text.showNumber line ++ " is not an instruction")
  | slotTooShort index entry length =>
    about index entry ("can only patch instructions of " ++ Text.showNumber minSlotLength
      ++ " or higher length, found " ++ Text.showNumber length)
  | emptyPayload index entry => about index entry "empty patch must be in replacement mode (=)"
  | noResumeLine index entry line =>
    about index entry ("line " ++ Text.showNumber line ++ " has no following instruction to return to")
  | missingTrailer index entry => about index entry "script has no trailer line"

end PatchError

/-- Reads a directive; an error quotes its first line. -/
def Patch.read (directive : Text) : Except PatchError Patch :=
  (Patch.parse directive).mapError (.malformed ((Text.lines directive).headD []))

/-- What follows the label definitions of a line. -/
def afterLabels (body : Text) : Text :=
  match _ : Text.trimStart body with
  | '&' :: rest =>
    match _ : Text.cutAt ':' rest with
    | some (_, tail) => afterLabels (Text.trimStart tail)
    | none => body
  | _ => body
termination_by body.length
decreasing_by
  have hrest := congrArg List.length (Text.cutAt_eq_some ‹Text.cutAt ':' rest = _›).1
  have hbody := (List.dropWhile_sublist isBlank (l := body)).length_le
  have htail := (List.dropWhile_sublist isBlank (l := tail)).length_le
  rw [← Text.trimStart, ‹Text.trimStart body = _›] at hbody
  simp only [List.length_append, List.length_cons, Text.trimStart] at hrest hbody htail ⊢
  omega

/-- The label definitions of a line and what follows them. -/
def splitLabels (line : Text) : Text × Text :=
  let body := afterLabels line
  (line.take (line.length - body.length), body)

/-- The length declared after the first full stop. -/
def declaredLength? (body : Text) : Option Nat := do
  let (_, rest) ← Text.cutAt '.' body
  Text.readDigits? (rest.takeWhile Char.isDigit)

def zeroBytes (count : Nat) : Text := ['-'].intercalate (List.replicate count ['0', '0'])

/-- Whether a line is a no-op of some length with zero bytes only. -/
def isErasedSlot (body : Text) (length? : Option Nat) : Bool :=
  lineName? body == some Opcode.nopName && declaredLength? body == length? &&
    match Text.cutAt ' ' body with
    | some (_, bytes) => (bytes.splitOn '-').all fun b => Text.trim b == ['0', '0']
    | none => false

def isTrailer (line : Text) : Bool := "trailer.".toList.isPrefixOf (splitLabels line).2

def Patch.expects (p : Patch) (body : Text) : Bool :=
  if p.mayGoOn then p.expected.isPrefixOf body else body == p.expected

/-- Whether a line looks as the patch leaves its slot. -/
def Patch.looksApplied (p : Patch) (body : Text) : Bool :=
  lineName? body == some Opcode.loopCondName ||
    (p.mode == .replace && p.payload?.isNone && isErasedSlot body (declaredLength? p.expected))

/-- What a patch does to a script. -/
inductive Application where
  | alreadyApplied
  /-- The slot becomes a no-op. -/
  | erased (slot : Text)
  /-- The slot becomes a jump to `overflow`, which goes to the end of the script; `resumeLabel` goes to the line after
  the slot. -/
  | branched (slot resumeLabel : Text) (overflow : List Text)
deriving DecidableEq, Repr

def overflowLabel (index : Nat) : Text := 'P' :: Text.decimal index

/-- The label of the line after a patch's slot. -/
def resumeLabel (index : Nat) : Text := 'P' :: 'R' :: Text.decimal index

def defining (label : Text) : Text := '&' :: (label ++ [':', ' '])

def jumpTo (label : Text) (length : Nat) : Text :=
  Opcode.loopCondName ++ '.' :: (Text.decimal length ++ ' ' :: '&' :: (label ++ '-' :: zeroBytes (length - 4)))

/-- The lines of a patch's overflow block. -/
def overflowBlock (mode : PatchMode) (index : Nat) (payload body : Text) : List Text :=
  let start := defining (overflowLabel index)
  let back := jumpTo (resumeLabel index) minSlotLength
  match mode with
  | .insertBefore => [start ++ payload, body, back]
  | .insertAfter => [start ++ body, payload, back]
  | .replace => [start ++ payload, back]

/-- Works out what a patch does to the lines of a script. -/
def Patch.plan (p : Patch) (entry : String) (index : Nat) (lines : List Text) : Except PatchError Application :=
  match lines[p.line - 1]? with
  | none => .error (.lineOutOfRange index entry p.line)
  | some target =>
    let (labels, body) := splitLabels target
    if !p.expects body then
      if p.looksApplied body then .ok .alreadyApplied else .error (.mismatch index entry p.line body)
    else
      match declaredLength? body with
      | none => .error (.notAnInstruction index entry p.line)
      | some length =>
        if length < minSlotLength then .error (.slotTooShort index entry length)
        else
          match p.payload? with
          | none =>
            if p.mode ≠ .replace then .error (.emptyPayload index entry)
            else
              .ok (.erased (labels ++ (Opcode.nopName ++ '.' :: (Text.decimal length ++ ' ' ::
                zeroBytes (length - 2)))))
          | some payload =>
            match lines[p.line]? with
            | none => .error (.noResumeLine index entry p.line)
            | some next =>
              if isTrailer next then .error (.noResumeLine index entry p.line)
              else
                .ok (.branched (labels ++ jumpTo (overflowLabel index) length) (resumeLabel index)
                  (overflowBlock p.mode index payload body))

end SceneScript
