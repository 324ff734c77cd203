import Mathlib
import SceneScript.Proofs.Prose.Typesetter
import SceneScript.Proofs.Script.Rereading
/-!
# Scripts that were typeset

A dump is typeset when it is assembled. The script is then read in the character set it was written in, with the strings
as they were set, and as these are set already the new dump assembles to the script itself.
-/
namespace SceneScript

namespace Reading

/-- Whether the strings of a script keep to their lines, are set once for all, and can be told from the rows: the walk does
not take the first of them, if it is empty, for the length of an instruction. -/
structure Settles (ts : Typesetter) (inRecords : Bool) (w : Walked) : Prop where
  ends : EndsSafely inRecords w ∨ w.pool.lowest? ≠ some (w.stop + 1)
  noFeed : ∀ row ∈ w.rows, ∀ s ∈ row.strings, '\n' ∉ s
  inner_noSign : ∀ row ∈ w.rows, ∀ s ∈ row.strings.dropLast, '§' ∉ s
  last_noReturn : ∀ row ∈ w.rows, ∀ s ∈ row.strings.getLast?, s.getLast? ≠ some '\r'
  set : ∀ row ∈ w.rows, ∀ s ∈ row.strings, ts.Settles s

variable {ts : Typesetter}

/-- Setting a string brings in none of the characters that are written as others. -/
private theorem notMem_unread_set (hspeakers : ts.speakers = .empty) {s : Text} (hs : ∀ c ∈ s, c ∉ Charset.unread)
    (hsettles : ts.Settles s) : ∀ c ∈ (ts.set s).1, c ∉ Charset.unread := by
  intro c hc hunread
  have hsigns : Charset.unread.all fun c => c ∉ Typesetter.signs := by decide +kernel
  have hsign : c ∉ Typesetter.signs := of_decide_eq_true (List.all_eq_true.mp hsigns c hunread)
  exact hs c ((Typesetter.set_spec hspeakers hsettles).1 c hsign hc) hunread

/-- What is written of a string is read as the string was set. -/
private theorem decode?_encode (hspeakers : ts.speakers = .empty) {s : Text} (hs : ∀ c ∈ s, c ∉ Charset.unread)
    (hsettles : ts.Settles s) {bytes : Bytes} (h : (ts.encode s).1 = .ok bytes) :
    ts.target.decode? bytes = some (ts.set s).1 ∧ 0 ∉ bytes := by
  have hset := notMem_unread_set hspeakers hs hsettles
  have hdecode := Charset.decode?_of_encode (show ts.target.encode (ts.set s).1 = .ok bytes from h) fun _ => hset
  exact ⟨hdecode, Charset.zero_notMem_of_decode? hdecode fun hm => hset _ hm (by decide)⟩

/-- The strings that were set keep to their lines. -/
private theorem Settles.writable (hspeakers : ts.speakers = .empty) {r : Reading} {row : Row} {w : Walked} {inRecords : Bool}
    (hsettles : Settles ts inRecords w) (hwalks : r.Walks row w) :
    ∀ row ∈ w.rows, (row.mapStrings fun s => (ts.set s).1).Writable := by
  intro row hrow
  have hkept : ∀ s ∈ row.strings, ∀ c ∉ Typesetter.signs, c ∈ (ts.set s).1 → c ∈ s := fun s hs =>
    (Typesetter.set_spec hspeakers (hsettles.set row hrow s hs)).1
  have hunread : ∀ s ∈ row.strings, ∀ c ∈ (ts.set s).1, c ∉ Charset.unread := fun s hs =>
    notMem_unread_set hspeakers (hwalks.notMem_unread row hrow s hs) (hsettles.set row hrow s hs)
  refine ⟨?_, ?_, ?_, ?_⟩
  · intro _ hmapped hm
    obtain ⟨s, hs, rfl⟩ := List.mem_map.mp hmapped
    exact hsettles.noFeed row hrow s hs (hkept s hs _ (by decide +kernel) hm)
  · intro _ hmapped
    obtain ⟨s, hs, rfl⟩ := List.mem_map.mp hmapped
    exact ⟨fun hm => hunread s hs _ hm (by decide), fun hm => hunread s hs _ hm (by decide)⟩
  · intro _ hmapped hm
    rw [Row.mapStrings, ← List.map_dropLast] at hmapped
    obtain ⟨s, hs, rfl⟩ := List.mem_map.mp hmapped
    exact hsettles.inner_noSign row hrow s hs (hkept s (List.mem_of_mem_dropLast hs) _ (by decide +kernel) hm)
  · intro _ hmapped hlast
    rw [Row.mapStrings, List.getLast?_map] at hmapped
    obtain ⟨s, hs, rfl⟩ := Option.mem_map.mp hmapped
    exact hsettles.last_noReturn row hrow s hs
      ((Typesetter.set_spec hspeakers (hsettles.set row hrow s (List.mem_of_mem_getLast? hs))).2.1 hlast)

end Reading

/-- A script that a dump was assembled to has a dump in the character set of the typesetter, and this one assembles to the
script itself. -/
theorem exists_disassemble_of_assemble {name : String} {bytes bytes' : Bytes} {preferred : Charset} {dump : Disassembly}
    {row : Row} {w : Reading.Walked} {ts : Typesetter} (hspeakers : ts.speakers = .empty)
    (h : (disassemble name bytes preferred).1 = .ok dump) (hwalks : Reading.Walks ⟨name, bytes, dump.charset⟩ row w)
    (hsettles : Reading.Settles ts (isRecordFile name) w) (hlength : bytes.length < Text.numberBound)
    (hassemble : (assemble name dump.text ts).1 = .ok bytes') :
    ∃ text, (disassemble name bytes' ts.target).1 = .ok ⟨text, ts.target⟩ ∧ (assemble name text ts).1 = .ok bytes' := by
  rw [text_of_walks h hwalks] at hassemble
  obtain ⟨content, gap, t, rows, parts, hrelaid⟩ :=
    Reading.exists_relaid hwalks (hwalks.writable hsettles.noFeed hsettles.inner_noSign hsettles.last_noReturn) hlength hassemble
  have hread : Reading.rows ⟨name, bytes', ts.target⟩ =
      .ok (Reading.scriptRows content (rows.map (Row.mapStrings fun s => (ts.set s).1)) gap t) :=
    hrelaid.rows_eq hsettles.ends fun row hrow s hs _ hencode =>
      Reading.decode?_encode hspeakers (hwalks.notMem_unread row hrow s hs) (hsettles.set row hrow s hs) hencode
  refine ⟨_, disassemble_eq_ok.mpr (Or.inl (dumpIn_eq_ok.mpr ⟨_, hread, rfl⟩)), ?_⟩
  refine hrelaid.assemble_eq (Reading.Settles.writable hspeakers hsettles hwalks) fun row hrow s hs => ?_
  change ts.target.encode (ts.set (ts.set s).1).1 = ts.target.encode (ts.set s).1
  rw [(Typesetter.set_spec hspeakers (hsettles.set row hrow s hs)).2.2]

/-- Whether a script is set once for all, whatever character set it is first read in. -/
def SetOnce (ts : Typesetter) (name : String) (bytes : Bytes) : Prop :=
  ∀ cs dump, (disassemble name bytes cs).1 = .ok dump →
    ∃ row w, Reading.Walks ⟨name, bytes, dump.charset⟩ row w ∧ Reading.Settles ts (isRecordFile name) w

end SceneScript
