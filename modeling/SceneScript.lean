import SceneScript.Text.Blank
import SceneScript.Text.Alphabetic
import SceneScript.Bytes
import SceneScript.Charset.Big5Rows
import SceneScript.Charset.ShiftJisRows
import SceneScript.Charset
import SceneScript.Opcode
import SceneScript.Prose.English
import SceneScript.Prose.Speakers
import SceneScript.Prose.Wrap
import SceneScript.Prose.Typesetter
import SceneScript.Json.Reader
import SceneScript.Json.Printer
import SceneScript.Json.Decode
import SceneScript.Settings
import SceneScript.Script.Disassembly
import SceneScript.Dump.Mnemonic
import SceneScript.Script.Assembly
import SceneScript.Replacement.Merge
import SceneScript.Archive.Shelf
import SceneScript.Session.Scripts
import SceneScript.Main
import SceneScript.Proofs.Script.Placement
import SceneScript.Proofs.Script.Editing
import SceneScript.Proofs.Patch.Wiring
import SceneScript.Proofs.Patch.Labels
import SceneScript.Proofs.Patch.Reapplication
import SceneScript.Proofs.Patch.Redump
import SceneScript.Proofs.Archive.Image
import SceneScript.Proofs.Session.Runs
import SceneScript.Proofs.Session.Backup
import SceneScript.Proofs.Session.Unedited
import SceneScript.Proofs.Session.FailedSave
import SceneScript.Proofs.Session.Edits
import SceneScript.Proofs.Script.Preference
import SceneScript.Proofs.Archive.Views
import SceneScript.Proofs.Charset.PairTable
import SceneScript.Proofs.Charset.Reading
import SceneScript.Proofs.Patch.Reload
import SceneScript.Proofs.Script.Typesetting
import SceneScript.Proofs.Files.Below
import SceneScript.Proofs.Session.Consulting
import SceneScript.Proofs.Session.Exporting
import SceneScript.Proofs.Session.Lockstep
import SceneScript.Proofs.Session.Outfit
import SceneScript.Proofs.Session.Reverting
import SceneScript.Proofs.Session.SceneFile
import SceneScript.Proofs.Session.Transfer
import SceneScript.Proofs.Session.Resaving
import SceneScript.Proofs.Prose.LineWidth
import SceneScript.Proofs.Prose.QuoteBalance
import SceneScript.Proofs.Script.Coverage
import SceneScript.Proofs.Replacement.Remerging
import SceneScript.Proofs.Replacement.Rejoining
import SceneScript.Proofs.Replacement.Reloading
import SceneScript.Proofs.Dump.Mnemonic
import SceneScript.Proofs.Patch.Readers
import SceneScript.Proofs.Prose.Encoding
