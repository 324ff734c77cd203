import Mathlib
import SceneScript.Proofs.Archive.Opening
import SceneScript.Proofs.Files.Locations
import SceneScript.Proofs.Session.Opening
/-!
# What a session is fitted out with

Besides the scene file a session that is opened reads the font and the table of speakers. The typesetter that it gets is
told by the settings and these two files.
-/
namespace SceneScript

open Act

/-- The table of speakers in a file. -/
def Speakers.readFrom (disk : Disk) (p : Path) : Except SessionError Speakers :=
  match disk.readText p with
  | .error e => .error (.file e)
  | .ok t =>
    match (Json.parse? t).bind Speakers.ofJson? with
    | some table => .ok table
    | none => .error .json

/-- The metrics of a font in an archive. -/
def FontMetrics.readFrom? (disk : Disk) (p : Path) (fontEntry : String) : Option FontMetrics :=
  match Archive.openFile disk p with
  | .error _ => none
  | .ok fonts => (fonts.fontMetrics disk fontEntry).1

namespace Settings

/-- The metrics of the font on a disk, if lines are wrapped. -/
def metricsOn (settings : Settings) (disk : Disk) : Option FontMetrics :=
  if settings.wraps then FontMetrics.readFrom? disk (settings.gamePath.join fontsPath) settings.fontEntry else none

/-- The table of speakers on a disk. -/
def speakersOn (settings : Settings) (disk : Disk) : Except SessionError Speakers :=
  match settings.speakers? with
  | none => .ok Speakers.empty
  | some p => Speakers.readFrom disk p

/-- The typesetter that a session gets. -/
def typesetterOn (settings : Settings) (disk : Disk) : Except SessionError Typesetter :=
  (settings.speakersOn disk).map fun speakers =>
    ⟨settings.target, settings.english, settings.wraps, settings.wrap, settings.metricsOn disk, speakers⟩

end Settings

/-- The session that is opened on an archive with a typesetter. -/
def Session.openedOn (settings : Settings) (a : Archive) (ts : Typesetter) : Session :=
  ⟨settings.gamePath, a, ts, DumpCache.empty, settings.target⟩

/-! ## Opening by what is found -/

theorem Speakers.load_eq (p : Path) (w : Workplace) : Speakers.load p w = (Speakers.readFrom w.disk p, w) := by
  rw [Speakers.load, Speakers.readFrom]
  cases hread : w.disk.readText p with
  | error e =>
    have hinspect : Workplace.inspect (·.readText p) w = (.error (.file e), w) := by
      rw [Workplace.inspect, get_bind, hread]
      rfl
    rw [bind_error hinspect]
  | ok t =>
    have hinspect : Workplace.inspect (·.readText p) w = (.ok t, w) := by
      rw [Workplace.inspect, get_bind, hread]
      rfl
    rw [bind_ok hinspect]
    dsimp only
    cases (Json.parse? t).bind Speakers.ofJson? <;> rfl

theorem Settings.typesetter_eq (settings : Settings) (metrics? : Option FontMetrics) (w : Workplace) :
    settings.typesetter metrics? w = ((settings.speakersOn w.disk).map fun speakers =>
      ⟨settings.target, settings.english, settings.wraps, settings.wrap, metrics?, speakers⟩, w) := by
  rw [typesetter, speakersOn]
  cases settings.speakers? with
  | none => rfl
  | some p =>
    have hload := Speakers.load_eq p w
    dsimp only
    cases hspeakers : Speakers.readFrom w.disk p with
    | error e =>
      rw [hspeakers] at hload
      rw [bind_error hload]
      rfl
    | ok table =>
      rw [hspeakers] at hload
      rw [bind_ok hload]
      rfl

theorem loadMetrics_eq (root : Path) (fontEntry : String) (w : Workplace) :
    ∃ log, loadMetrics root fontEntry w =
      (.ok (FontMetrics.readFrom? w.disk (root.join fontsPath) fontEntry), { w with log := log }) := by
  rw [loadMetrics, get_bind, FontMetrics.readFrom?]
  dsimp only
  cases Archive.openFile w.disk (root.join fontsPath) with
  | error e =>
    dsimp only
    rw [bind_ok (Workplace.report_eq _ w)]
    exact ⟨_, rfl⟩
  | ok fonts =>
    rcases hmetrics : fonts.fontMetrics w.disk fontEntry with ⟨metrics?, a, log⟩
    dsimp only
    rw [hmetrics]
    dsimp only
    rw [bind_ok (Workplace.report_eq log w)]
    exact ⟨_, rfl⟩

namespace Session

/-- Opening comes to what the scene file, the font and the table of speakers come to. -/
theorem openScene_eq {settings : Settings} {w : Workplace} {a : Archive}
    (h : Archive.openFile w.disk (settings.gamePath.join scenePath) = .ok a) :
    ∃ log, openScene settings w = ((settings.typesetterOn w.disk).map (openedOn settings a), { w with log := log }) := by
  have hrest : ∀ log, ∃ log', (do
      let typesetter ← settings.typesetter (settings.metricsOn w.disk)
      Workplace.report [Log.info ("Loaded " ++ Text.showNumber a.entries.length ++ " scripts from " ++ a.destination)]
      return (⟨settings.gamePath, a, typesetter, DumpCache.empty, settings.target⟩ : Session) : Act Workplace Session)
        { w with log := log } = ((settings.typesetterOn w.disk).map (openedOn settings a), { w with log := log' }) := by
    intro log
    have htypesetter := settings.typesetter_eq (settings.metricsOn w.disk) { w with log := log }
    rw [Settings.typesetterOn]
    dsimp only at htypesetter
    cases hspeakers : settings.speakersOn w.disk with
    | error e =>
      rw [hspeakers] at htypesetter
      rw [bind_error htypesetter]
      exact ⟨log, rfl⟩
    | ok speakers =>
      rw [hspeakers] at htypesetter
      rw [bind_ok htypesetter, bind_ok (Workplace.report_eq _ _)]
      exact ⟨_, rfl⟩
  rw [openScene]
  dsimp only
  rw [bind_ok (Workplace.openArchive_eq_ok h)]
  cases hwraps : settings.wraps with
  | false =>
    have hmetrics : settings.metricsOn w.disk = none := by rw [Settings.metricsOn, hwraps, if_neg Bool.false_ne_true]
    rw [hmetrics] at hrest
    exact hrest w.log
  | true =>
    obtain ⟨log, hload⟩ := loadMetrics_eq settings.gamePath settings.fontEntry w
    have hmetrics : settings.metricsOn w.disk =
        FontMetrics.readFrom? w.disk (settings.gamePath.join fontsPath) settings.fontEntry := by
      rw [Settings.metricsOn, hwraps, if_pos rfl]
    rw [hmetrics] at hrest
    rw [if_pos rfl, bind_ok hload]
    exact hrest log

theorem openScene_eq_ok {settings : Settings} {w w' : Workplace} {s : Session} (h : openScene settings w = (.ok s, w')) :
    w'.disk = w.disk ∧ ∃ a ts, Archive.openFile w.disk (settings.gamePath.join scenePath) = .ok a ∧
      settings.typesetterOn w.disk = .ok ts ∧ s = openedOn settings a ts := by
  have hfresh := (openScene_spec h).2 s rfl
  obtain ⟨log, hopen⟩ := openScene_eq hfresh.archive_eq
  rw [h] at hopen
  obtain ⟨hresult, rfl⟩ := Prod.mk.inj hopen
  cases hts : settings.typesetterOn w.disk with
  | error e =>
    rw [hts] at hresult
    cases hresult
  | ok ts =>
    rw [hts] at hresult
    exact ⟨rfl, _, ts, hfresh.archive_eq, rfl, Except.ok.inj hresult⟩

/-- What a session is that was loaded or prepared. -/
theorem eq_of_opened {settings : Settings} {w₀ w : Workplace} {s : Session}
    (h : load settings w₀ = (.ok s, w) ∨ prepare settings w₀ = (.ok s, w)) :
    ∃ a ts, Archive.openFile w.disk (settings.gamePath.join scenePath) = .ok a ∧
      settings.typesetterOn w.disk = .ok ts ∧ s = openedOn settings a ts := by
  have hopen : ∃ w₁, openScene settings w₁ = (.ok s, w) := by
    rcases h with h | h
    · rw [load, bind_ok (Workplace.contains_eq _ _)] at h
      cases hfound : w₀.disk.contains (settings.gamePath.join scenePath) with
      | true =>
        rw [hfound] at h
        exact ⟨w₀, h⟩
      | false =>
        rw [hfound] at h
        cases h
    · obtain ⟨-, e, he⟩ | ⟨w₁, -, hopen⟩ := prepare_cases h
      · cases he
      · exact ⟨w₁, hopen⟩
  obtain ⟨w₁, hopen⟩ := hopen
  obtain ⟨hdisk, hfound⟩ := openScene_eq_ok hopen
  rw [hdisk]
  exact hfound

/-- A session is loaded where its scene file opens and its table of speakers is read. -/
theorem load_eq {settings : Settings} {w : Workplace} {a : Archive} {ts : Typesetter}
    (hopen : Archive.openFile w.disk (settings.gamePath.join scenePath) = .ok a) (hts : settings.typesetterOn w.disk = .ok ts) :
    ∃ log, load settings w = (.ok (openedOn settings a ts), { w with log := log }) := by
  obtain ⟨image, _, hread, -⟩ := Archive.openFile_eq_ok hopen
  obtain ⟨loc, hfile⟩ := Disk.resolve_of_read hread
  obtain ⟨log, hrun⟩ := openScene_eq hopen
  refine ⟨log, ?_⟩
  rw [load, bind_ok (Workplace.contains_eq _ _), Disk.contains_of_resolve hfile]
  rw [hts] at hrun
  exact hrun

end Session

/-! ## The same outfit -/

/-- Whether the font and the table of speakers are the same on two disks. -/
structure Settings.SameOutfit (settings : Settings) (disk disk' : Disk) : Prop where
  fonts : Disk.SameFile (settings.gamePath.join fontsPath) disk disk'
  speakers : ∀ p ∈ settings.speakers?, Disk.SameFile p disk disk'

private theorem Archive.fontMetrics_congr {a : Archive} {p : Path} {disk disk' : Disk} {loc loc' : Location} {data : Bytes}
    (hsource : a.source? = some p) (hfile : disk.resolve p = .ok (loc, some (.file data)))
    (hfile' : disk'.resolve p = .ok (loc', some (.file data))) (fontEntry : String) :
    (a.fontMetrics disk' fontEntry).1 = (a.fontMetrics disk fontEntry).1 := by
  rw [fontMetrics, fontMetrics]
  cases a.find? fontEntry with
  | none => rfl
  | some found =>
    obtain ⟨e, place⟩ := found
    dsimp only
    rw [loadAt, loadAt, hsource, Entry.load_congr e hfile' hfile]

theorem FontMetrics.readFrom?_congr {p : Path} {disk disk' : Disk} (h : Disk.SameFile p disk disk') (fontEntry : String) :
    readFrom? disk' p fontEntry = readFrom? disk p fontEntry := by
  have hnone : ∀ {d : Disk}, (∀ data, d.read p ≠ .ok data) → readFrom? d p fontEntry = none := by
    intro d hd
    rw [readFrom?]
    cases hopen : Archive.openFile d p with
    | error e => rfl
    | ok a =>
      obtain ⟨image, _, hread, -⟩ := Archive.openFile_eq_ok hopen
      exact absurd hread (hd image)
  cases hread : disk.read p with
  | error e =>
    have hnot : ∀ data, disk.read p ≠ .ok data := fun data hdata => by
      rw [hread] at hdata
      cases hdata
    rw [hnone hnot, hnone fun data hdata => hnot data ((h data).mp hdata)]
  | ok data =>
    have hread' := (h data).mpr hread
    obtain ⟨loc, hfile⟩ := Disk.resolve_of_read hread
    obtain ⟨loc', hfile'⟩ := Disk.resolve_of_read hread'
    rw [readFrom?, readFrom?, Archive.openFile, Archive.openFile, hread, hread']
    dsimp only
    cases Image.list data with
    | error fault => rfl
    | ok listed => exact Archive.fontMetrics_congr rfl hfile hfile' fontEntry

theorem Speakers.readFrom_congr {p : Path} {disk disk' : Disk} (h : Disk.SameFile p disk disk') {table : Speakers}
    (htable : readFrom disk p = .ok table) : readFrom disk' p = .ok table := by
  rw [readFrom, Disk.readText] at htable ⊢
  cases hread : disk.read p with
  | error e =>
    rw [hread] at htable
    cases htable
  | ok data =>
    rw [hread] at htable
    rw [(h data).mpr hread]
    exact htable

namespace Settings

theorem metricsOn_congr {settings : Settings} {disk disk' : Disk}
    (h : Disk.SameFile (settings.gamePath.join fontsPath) disk disk') : settings.metricsOn disk' = settings.metricsOn disk := by
  rw [metricsOn, metricsOn, FontMetrics.readFrom?_congr h]

/-- With the same outfit a session gets the same typesetter. -/
theorem typesetterOn_congr {settings : Settings} {disk disk' : Disk} (h : settings.SameOutfit disk disk') {ts : Typesetter}
    (hts : settings.typesetterOn disk = .ok ts) : settings.typesetterOn disk' = .ok ts := by
  have hmetrics := metricsOn_congr h.fonts
  have hspeakers : ∀ table, settings.speakersOn disk = .ok table → settings.speakersOn disk' = .ok table := by
    intro table htable
    rw [speakersOn] at htable ⊢
    cases hp : settings.speakers? with
    | none =>
      rw [hp] at htable
      exact htable
    | some p =>
      rw [hp] at htable
      exact Speakers.readFrom_congr (h.speakers p hp) htable
  rw [typesetterOn] at hts ⊢
  cases htable : settings.speakersOn disk with
  | error e =>
    rw [htable] at hts
    cases hts
  | ok table =>
    rw [htable] at hts
    rw [hspeakers table htable, hmetrics]
    exact hts

theorem eq_of_typesetterOn {settings : Settings} {disk : Disk} {ts : Typesetter} (h : settings.typesetterOn disk = .ok ts) :
    ts = ⟨settings.target, settings.english, settings.wraps, settings.wrap, settings.metricsOn disk, ts.speakers⟩ := by
  rw [typesetterOn] at h
  cases hspeakers : settings.speakersOn disk with
  | error e =>
    rw [hspeakers] at h
    cases h
  | ok table =>
    rw [hspeakers] at h
    obtain rfl := Except.ok.inj h
    rfl

/-- With the same fonts and one table of speakers sessions get the same typesetter. -/
theorem typesetter_eq_of_fonts {settings : Settings} {disk disk' : Disk}
    (h : Disk.SameFile (settings.gamePath.join fontsPath) disk disk') {ts ts' : Typesetter}
    (hts : settings.typesetterOn disk = .ok ts) (hts' : settings.typesetterOn disk' = .ok ts')
    (hspeakers : ts'.speakers = ts.speakers) : ts' = ts := by
  rw [eq_of_typesetterOn hts, eq_of_typesetterOn hts', metricsOn_congr h, hspeakers]

end Settings
end SceneScript
