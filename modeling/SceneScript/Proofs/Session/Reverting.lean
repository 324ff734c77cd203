import Mathlib
import SceneScript.Proofs.Session.Lockstep
import SceneScript.Proofs.Session.Service
/-!
# A session that is reverted

Reverting puts the backup in place of the scene file and forgets every dump, but not the character set that the next
script is first read in. If that is the target, or if every script comes to one dump, the session is from then on like one
that is loaded anew.
-/
namespace SceneScript.Bench

open Act

/-- What a call is answered with. -/
inductive Answer where
  | dump (text : Text)
  | count (n : Nat)
  | directory (p : Path)
  | done
deriving DecidableEq, Repr

/-- A call with its answer. -/
def Call.reply : Call → Act Bench Answer
  | decompile name => do return .dump (← Bench.decompile name)
  | edit name dump => do
    Bench.edit name dump
    return .done
  | applyDumps directory => do return .count (← Bench.applyDumps directory)
  | importSets directory => do return .count (← Bench.importSets directory)
  | exportDumps => do return .directory (← Bench.exportDumps)
  | save => do
    Bench.save
    return .done

/-- The answers to calls one after the other, be they failures, and the files after each. -/
def transcript : List Call → Bench → List (Except SessionError Answer × Disk)
  | [], _ => []
  | c :: calls, b =>
    let (answer, b') := c.reply b
    (answer, b'.workplace.disk) :: transcript calls b'

theorem lockstep_reply {same : Prop} (c : Call) : Lockstep (Abreast same) c.reply := by
  cases c with
  | decompile name => exact (lockstep_decompile name).bind fun _ => lockstep_pure _
  | edit name dump => exact (lockstep_edit name dump).bind fun _ => lockstep_pure _
  | applyDumps directory => exact (lockstep_applyDumps directory).bind fun _ => lockstep_pure _
  | importSets directory => exact (lockstep_importSets directory).bind fun _ => lockstep_pure _
  | exportDumps => exact lockstep_exportDumps.bind fun _ => lockstep_pure _
  | save => exact lockstep_save.bind fun _ => lockstep_pure _

/-- Twins that come to the same dumps answer all calls alike. -/
theorem Abreast.transcript_eq {same : Prop} {b s : Bench} (h : Abreast same b s) (calls : List Call) :
    transcript calls s = transcript calls b := by
  induction calls generalizing b s with
  | nil => rfl
  | cons c calls ih =>
    obtain ⟨hanswer, hstate⟩ := lockstep_reply c b s h
    change ((c.reply s).1, (c.reply s).2.workplace.disk) :: transcript calls (c.reply s).2 = _
    rw [hanswer, hstate.disk_eq, ih hstate]
    rfl

/-- A session that was reverted next to one that is loaded on the same files. -/
theorem exists_load_of_reverted {settings : Settings} {w₀ w : Workplace} {s : Session} {base b b' : Bench}
    (hopen : Session.load settings w₀ = (.ok s, w) ∨ Session.prepare settings w₀ = (.ok s, w))
    (hserves : Serves ⟨s, w⟩ base b) (hrevert : revert b = (.ok (), b'))
    (hspeakers : ∀ p ∈ settings.speakers?, Disk.SameFile p w.disk b'.workplace.disk) :
    ∃ s' w', Session.load settings b'.workplace = (.ok s', w') ∧
      Twins (b.session.preferred = settings.target) b' ⟨s', w'⟩ := by
  have hserved := (hserves.served (Session.fresh_of_opened hopen).opened).reverted hrevert
  obtain ⟨hroot, hts⟩ := hserved.typesetterOn hopen hspeakers
  have hscene : Archive.openFile b'.workplace.disk (settings.gamePath.join scenePath) = .ok b'.session.archive := by
    rw [← hroot]
    exact hserved.base_opened
  obtain ⟨log, hload⟩ := Session.load_eq hscene hts
  obtain ⟨disk, a', log', -, -, hb'⟩ := revert_eq_ok hrevert
  refine ⟨_, _, hload, ?_⟩
  exact
    { root_eq := hroot.symm
      archive_eq := rfl
      typesetter_eq := rfl
      dumps_eq := (congrArg (·.session.dumps) hb').symm
      disk_eq := rfl
      preferred_eq := fun hsame => hsame.symm.trans (congrArg (·.session.preferred) hb').symm }

/-- After any calls a revert that succeeds has put the backup in place of the scene file, and everything that is called
afterwards gives what it gives in a session that is loaded anew on the same files, and writes the same. For this the
character set of the last script that was dumped has to be the target, or each script has to come to one dump. -/
theorem revert_like_load {settings : Settings} {w₀ w : Workplace} {s : Session}
    (hopen : Session.load settings w₀ = (.ok s, w) ∨ Session.prepare settings w₀ = (.ok s, w))
    {base b b' : Bench} (hserves : Serves ⟨s, w⟩ base b) (hrevert : revert b = (.ok (), b'))
    (hspeakers : ∀ p ∈ settings.speakers?, Disk.SameFile p w.disk b'.workplace.disk)
    (horder : b.session.preferred = settings.target ∨ b'.ReadOneWay) :
    (∃ data, b'.workplace.disk.read s.scene = .ok data ∧
      b'.workplace.disk.read (s.root.join backupPath) = .ok data ∧
      b.workplace.disk.read (s.root.join backupPath) = .ok data) ∧
    ∃ s' w', Session.load settings b'.workplace = (.ok s', w') ∧
      ∀ calls, transcript calls b' = transcript calls ⟨s', w'⟩ := by
  have hserved := hserves.served (Session.fresh_of_opened hopen).opened
  have hroot : b.session.root = s.root := hserved.upkeep.root_eq.trans hserved.root_eq
  obtain ⟨s', w', hload, htwins⟩ := exists_load_of_reverted hopen hserves hrevert hspeakers
  obtain ⟨disk, a, log, hcopy, -, hb'⟩ := revert_eq_ok hrevert
  have hdisk : b'.workplace.disk = disk := congrArg (·.workplace.disk) hb'
  constructor
  · obtain ⟨loc, data, hfile, -⟩ := Disk.copy_eq_ok hcopy
    obtain ⟨hkept, hcopied⟩ := Disk.read_copy (Session.getLast?_backupPath _) (by decide) (by decide)
      (Session.getLast?_scenePath _) (by decide) (by decide) (by decide) hcopy
    have hread := Disk.read_of_resolve hfile
    rw [Session.scene, ← hroot, hdisk]
    exact ⟨data, hcopied.trans hread, hkept.trans hread, hread⟩
  · refine ⟨s', w', hload, fun calls => (Abreast.transcript_eq ⟨htwins, fun hne => ?_⟩ calls).symm⟩
    have hdumps : b'.session.dumps = DumpCache.empty := congrArg (·.session.dumps) hb'
    exact steady_of_opened (hserved.reverted hrevert).base_opened hdumps (horder.resolve_left hne)

/-- A message that decodes in Shift-JIS alone is dumped, edited and saved, in a session whose target is Big5. -/
theorem revert_like_load_saved :
    let image := (Image.build? [⟨"SC01", .zero, [1, 0x18, 8, 0, 0, 0, 0, 0x0B, 0, 0x0D, 2, 0xB1, 0]⟩,
      ⟨"SC02", .zero, [1, 0x0D, 2]⟩]).getD []
    let w₀ : Workplace := ⟨⟨[], [(["FILE"], .dir), (["FILE", "SCENE00.afs"], .file image)]⟩, []⟩
    let settings := { Settings.default with english := false, wraps := false }
    let dump := "header.1\nmessage.8 00-00-00-00-S @Yo\nret2.2\ntrailer.0".toList
    ∃ s w b b', Session.prepare settings w₀ = (.ok s, w) ∧ settings.target = .big5 ∧
      ((Call.edit "SC01" dump).act ((Call.decompile "SC01").act ⟨s, w⟩).2).2 = b ∧ b.session.preferred = .shiftJis ∧
      (save b).1 = .ok () ∧ revert (save b).2 = (.ok (), b') ∧ b'.ReadOneWay ∧
      (∃ data, b'.workplace.disk.read s.scene = .ok data ∧
        b'.workplace.disk.read (s.root.join backupPath) = .ok data ∧
        (save b).2.workplace.disk.read (s.root.join backupPath) = .ok data) ∧
      ∃ s' w', Session.load settings b'.workplace = (.ok s', w') ∧
        ∀ calls, transcript calls b' = transcript calls ⟨s', w'⟩ := by
  intro image w₀ settings dump
  have hrun : passes (Session.prepare settings w₀) (fun s w =>
      let b := ((Call.edit "SC01" dump).act ((Call.decompile "SC01").act ⟨s, w⟩).2).2
      decide (b.session.preferred = .shiftJis) && (passes (save b) fun _ saved =>
        passes (revert saved) fun _ b' => decide b'.ReadOneWay)) = true := by decide +kernel
  obtain ⟨s, w, hprepare, hrun⟩ := exists_of_passes hrun
  rw [Bool.and_eq_true, decide_eq_true_eq] at hrun
  obtain ⟨hpreferred, hrun⟩ := hrun
  obtain ⟨⟨⟩, saved, hsave, hrun⟩ := exists_of_passes hrun
  obtain ⟨⟨⟩, b', hrevert, hrun⟩ := exists_of_passes hrun
  have hserves : Serves ⟨s, w⟩ ⟨s, w⟩ saved := by
    have hcall : Serves ⟨s, w⟩ ⟨s, w⟩ (Call.save.act _).2 :=
      .call .save (.call (.edit "SC01" dump) (.call (.decompile "SC01") .opened))
    rwa [show Call.save.act = save from rfl, hsave] at hcall
  have honce := of_decide_eq_true hrun
  refine ⟨s, w, _, b', hprepare, rfl, rfl, hpreferred, ?_⟩
  rw [hsave]
  exact ⟨rfl, hrevert, honce, revert_like_load (.inr hprepare) hserves hrevert (fun _ h => nomatch h) (.inr honce)⟩

end SceneScript.Bench
