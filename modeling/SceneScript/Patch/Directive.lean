import SceneScript.Text.Blank
import SceneScript.Text.Number
/-!
# Patch directives

A patch is written `:<mode><line>:<expected>[*]` on its first line, with the lines it brings in after that. The mode
is `<`, `>` or `=` for bringing lines in before the line, after it or instead of it. With an asterisk the line may go
on after the expected text.
-/
namespace SceneScript

inductive PatchMode where
  | insertBefore
  | insertAfter
  | replace
deriving DecidableEq, Repr

def PatchMode.sign : PatchMode → Char
  | insertBefore => '<'
  | insertAfter => '>'
  | replace => '='

def PatchMode.ofSign? (c : Char) : Option PatchMode :=
  if c = '<' then some insertBefore
  else if c = '>' then some insertAfter
  else if c = '=' then some replace
  else none

structure Patch where
  mode : PatchMode
  /-- The line of the dump to patch, counted from one. -/
  line : Nat
  expected : Text
  /-- Whether the line may go on after the expected text. -/
  mayGoOn : Bool
  /-- The lines to bring in. -/
  payload? : Option Text
deriving DecidableEq, Repr

inductive DirectiveFault where
  | noColon
  | badMode
  | noExpected
  | badLine
  | lineZero
deriving DecidableEq, Repr

def DirectiveFault.message : DirectiveFault → String
  | noColon => "must start with ':'"
  | badMode => "mode must be one of '<', '>' or '='"
  | noExpected => "missing ':' after the line number"
  | badLine => "line number is not a number"
  | lineZero => "line numbers start at 1"

namespace Patch

/-- A text without the carriage returns it ends with. -/
def dropReturns (t : Text) : Text := t.dropEndWhile (· == '\r')

/-- The payload of a directive: without the blanks it ends with, and none if nothing is left. -/
def payloadOf (t : Text) : Option Text :=
  let payload := Text.trimEnd t
  if payload.isEmpty then none else some payload

def parse (directive : Text) : Except DirectiveFault Patch :=
  match directive with
  | ':' :: sign :: rest =>
    match PatchMode.ofSign? sign with
    | none => .error .badMode
    | some mode =>
      let (setup, payload?) := match Text.cutAt '\n' rest with
        | some (setup, payload) => (setup, payloadOf payload)
        | none => (rest, none)
      match Text.cutAt ':' (dropReturns setup) with
      | none => .error .noExpected
      | some (number, expected) =>
        match Text.readNumber? (Text.trim number) with
        | none => .error .badLine
        | some 0 => .error .lineZero
        | some line =>
          match Text.beforeWord? ['*'] expected with
          | some stem => .ok ⟨mode, line, stem, true, payload?⟩
          | none => .ok ⟨mode, line, expected, false, payload?⟩
  | ':' :: [] => .error .badMode
  | _ => .error .noColon

def render (p : Patch) : Text :=
  ':' :: p.mode.sign :: (Text.decimal p.line ++ ':' :: (p.expected ++
    ((if p.mayGoOn then ['*'] else []) ++
      match p.payload? with
      | some payload => '\n' :: payload
      | none => [])))

end Patch
end SceneScript
