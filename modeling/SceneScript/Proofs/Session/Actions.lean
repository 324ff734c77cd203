import Mathlib
import SceneScript.Session.Scripts
/-!
# What actions lead to

An action that starts in a state with some property ends with a result and a state that fit together, or with a failure
in a state that has some other property. The rules follow how actions are put together.
-/
namespace SceneScript

namespace Act

variable {σ α β : Type}

/-- Whether an action leads from states with a property to results that fit or to failures that fit. -/
def Leads (P : σ → Prop) (act : Act σ α) (Q : α → σ → Prop) (F : σ → Prop) : Prop :=
  ∀ s, P s → match act s with
    | (.ok a, s') => Q a s'
    | (.error _, s') => F s'

/-- Whether a property of states holds after an action if it held before. -/
def Keeps (P : σ → Prop) (act : Act σ α) : Prop := act.Leads P (fun _ => P) P

variable {P P' : σ → Prop} {act : Act σ α} {Q Q' : α → σ → Prop} {R : β → σ → Prop} {F F' : σ → Prop}

theorem Leads.of_ok (h : act.Leads P Q F) {s s' : σ} (hs : P s) {a : α} (heq : act s = (.ok a, s')) : Q a s' := by
  have := h s hs
  rwa [heq] at this

theorem Leads.exists_ok (h : act.Leads P Q fun _ => False) {s : σ} (hs : P s) : ∃ a s', act s = (.ok a, s') ∧ Q a s' := by
  have hact := h s hs
  rcases hstep : act s with ⟨result, s'⟩
  rw [hstep] at hact
  cases result with
  | ok a => exact ⟨a, s', rfl, hact⟩
  | error e => exact hact.elim

theorem Leads.after (h : act.Leads P Q P) (hQ : ∀ a s, Q a s → P s) {s : σ} (hs : P s) : P (act s).2 := by
  have hact := h s hs
  rcases hstep : act s with ⟨result, s'⟩
  rw [hstep] at hact
  cases result with
  | ok a => exact hQ a s' hact
  | error e => exact hact

/-- A property of the state after an action, be it a failure. -/
theorem Leads.final {s : σ} (h : act.Leads (· = s) (fun _ => P) P) : P (act s).2 := by
  have hact := h s rfl
  rcases hstep : act s with ⟨result, s'⟩
  rw [hstep] at hact
  cases result <;> exact hact

theorem Leads.mono (h : act.Leads P Q F) (hP : ∀ s, P' s → P s) (hQ : ∀ a s, Q a s → Q' a s) (hF : ∀ s, F s → F' s) :
    act.Leads P' Q' F' := by
  intro s hs
  have hact := h s (hP s hs)
  rcases hstep : act s with ⟨result, s'⟩
  rw [hstep] at hact
  cases result with
  | ok a => exact hQ a s' hact
  | error e => exact hF s' hact

theorem Leads.weaken (h : act.Leads P Q F) (hQ : ∀ a s, Q a s → Q' a s) : act.Leads P Q' F :=
  h.mono (fun _ hs => hs) hQ fun _ hs => hs

/-- A property may be shown state by state. -/
theorem leads_of_forall (h : ∀ s, P s → act.Leads (· = s) Q F) : act.Leads P Q F := fun s hs => h s hs s rfl

theorem Leads.start (h : act.Leads P Q F) {s : σ} (hs : P s) : act.Leads (· = s) Q F := by
  rintro _ rfl
  exact h _ hs

theorem leads_pure {a : α} (h : ∀ s, P s → Q a s) : Leads P (pure a : Act σ α) Q F := h

theorem leads_throw {e : SessionError} (h : ∀ s, P s → F s) : Leads P (throw e : Act σ α) Q F := h

theorem leads_return {a : α} {s : σ} (h : Q a s) : Leads (· = s) (pure a : Act σ α) Q F := by
  rintro _ rfl
  exact h

theorem leads_fail {e : SessionError} {s : σ} (h : F s) : Leads (· = s) (throw e : Act σ α) Q F := by
  rintro _ rfl
  exact h

theorem leads_get : Leads P (get : Act σ σ) (fun a s => a = s ∧ P s) F := fun _ hs => ⟨rfl, hs⟩

theorem leads_modify {f : σ → σ} {Q : PUnit → σ → Prop} (h : ∀ s, P s → Q ⟨⟩ (f s)) :
    Leads P (modify f : Act σ PUnit) Q F := h

theorem leads_modify_of_eq {f : σ → σ} {Q : PUnit → σ → Prop} {s : σ} (h : Q ⟨⟩ (f s)) :
    Leads (· = s) (modify f : Act σ PUnit) Q F := by
  apply leads_modify
  rintro _ rfl
  exact h

theorem Leads.bind {next : α → Act σ β} (h : act.Leads P Q F) (hnext : ∀ a, (next a).Leads (Q a) R F) :
    Leads P (act >>= next) R F := by
  intro s hs
  have hact := h s hs
  have hrun : (act >>= next) s = match act s with
      | (.ok a, s') => next a s'
      | (.error e, s') => (.error e, s') := by
    change ExceptT.bindCont next (act s).1 (act s).2 = _
    rcases act s with ⟨result, s'⟩
    cases result <;> rfl
  rw [hrun]
  rcases hstep : act s with ⟨result, s'⟩
  rw [hstep] at hact
  cases result with
  | ok a => exact hnext a s' hact
  | error e => exact hact

/-- An action after looking at the state. -/
theorem leads_get_bind {next : σ → Act σ β} (h : ∀ s, P s → (next s).Leads (· = s) R F) :
    Leads P ((get : Act σ σ) >>= next) R F := by
  apply leads_get.bind
  intro a
  apply leads_of_forall
  rintro s ⟨rfl, hs⟩
  exact h a hs

theorem bind_ok {a : α} (h : act s = (.ok a, s')) : (act >>= next) s = next a s' := by
  change ExceptT.bindCont next (act s).1 (act s).2 = _
  rw [h]
  rfl

theorem bind_error {e : SessionError} (h : act s = (.error e, s')) : (act >>= next) s = (.error e, s') := by
  change ExceptT.bindCont next (act s).1 (act s).2 = _
  rw [h]
  rfl

theorem bind_congr {act act' : Act σ α} (h : act s = act' s') : (act >>= next) s = (act' >>= next) s' := by
  change ExceptT.bindCont next (act s).1 (act s).2 = ExceptT.bindCont next (act' s').1 (act' s').2
  rw [h]

theorem get_bind {next : σ → Act σ β} : ((get : Act σ σ) >>= next) s = next s s := bind_ok rfl

theorem keeps_forM {items : List α} {act : α → Act σ PUnit} (h : ∀ a ∈ items, Keeps P (act a)) :
    Keeps P (items.forM act) := by
  induction items with
  | nil => exact leads_pure fun _ hs => hs
  | cons a items ih =>
    rw [List.forall_mem_cons] at h
    change Keeps P (act a >>= fun _ => items.forM act)
    exact h.1.bind fun _ => ih h.2

theorem keeps_foldlM {items : List α} {act : β → α → Act σ β} (h : ∀ b, ∀ a ∈ items, Keeps P (act b a)) (b : β) :
    Keeps P (items.foldlM act b) := by
  induction items generalizing b with
  | nil => exact leads_pure fun _ hs => hs
  | cons a items ih =>
    rw [List.foldlM_cons]
    refine (h b a List.mem_cons_self).bind fun b' => ?_
    exact ih (fun b a ha => h b a (List.mem_cons_of_mem _ ha)) b'

theorem keeps_mapM {items : List α} {act : α → Act σ β} (h : ∀ a ∈ items, Keeps P (act a)) : Keeps P (items.mapM act) := by
  induction items with
  | nil =>
    rw [List.mapM_nil]
    exact leads_pure fun _ hs => hs
  | cons a items ih =>
    rw [List.forall_mem_cons] at h
    rw [List.mapM_cons]
    exact h.1.bind fun b => (ih h.2).bind fun bs => leads_pure fun _ hs => hs

/-- Items done one after the other, each with a result that fits for as long as a known property of states holds. -/
theorem leads_mapM {items : List α} {act : α → Act σ β} {I : σ → σ → Prop} {Fits : α → β → σ → Prop}
    (hrefl : ∀ s, P s → I s s) (htrans : ∀ s₁ s₂ s₃, I s₁ s₂ → I s₂ s₃ → I s₁ s₃)
    (hfits : ∀ a b s s', Fits a b s → I s s' → Fits a b s')
    (hact : ∀ a ∈ items, ∀ s, P s → (act a).Leads (· = s) (fun b s' => P s' ∧ I s s' ∧ Fits a b s') F) (s : σ) (hs : P s) :
    Leads (· = s) (items.mapM act) (fun bs s' => P s' ∧ I s s' ∧ List.Forall₂ (fun a b => Fits a b s') items bs) F := by
  induction items generalizing s with
  | nil =>
    rw [List.mapM_nil]
    exact leads_return ⟨hs, hrefl _ hs, .nil⟩
  | cons a items ih =>
    rw [List.mapM_cons]
    rw [List.forall_mem_cons] at hact
    refine (hact.1 s hs).bind fun b => leads_of_forall ?_
    rintro s₁ ⟨hs₁, hI₁, hb⟩
    refine (ih hact.2 s₁ hs₁).bind fun bs => leads_pure ?_
    rintro s₂ ⟨hs₂, hI₂, hbs⟩
    exact ⟨hs₂, htrans _ _ _ hI₁ hI₂, .cons (hfits _ _ _ _ hb hI₂) hbs⟩

/-- Whether a run succeeds with what passes a test. -/
def passes (run : Except SessionError α × σ) (test : α → σ → Bool) : Bool :=
  match run with
  | (.ok a, s) => test a s
  | (.error _, _) => false

theorem exists_of_passes {run : Except SessionError α × σ} {test : α → σ → Bool} (h : passes run test = true) :
    ∃ a s, run = (.ok a, s) ∧ test a s = true := by
  rcases run with ⟨result, s⟩
  cases result with
  | ok a => exact ⟨a, s, rfl, h⟩
  | error e => cases h

end Act

namespace Workplace

open Act

variable {P : Disk → Prop}

theorem keeps_report (lines : Log) : Keeps (fun w => P w.disk) (report lines) := leads_modify fun _ h => h

theorem leads_inspect {α : Type} (look : Disk → Except FileError α) :
    Leads (fun w => P w.disk) (inspect look) (fun a w => P w.disk ∧ look w.disk = .ok a) fun w => P w.disk := by
  apply leads_get_bind
  intro w hw
  cases hlook : look w.disk with
  | ok a => exact leads_return ⟨hw, hlook⟩
  | error e => exact leads_fail hw

theorem leads_openArchive (p : Path) :
    Leads (fun w => P w.disk) (openArchive p) (fun a w => P w.disk ∧ Archive.openFile w.disk p = .ok a)
      fun w => P w.disk := by
  apply leads_get_bind
  intro w hw
  cases hopen : Archive.openFile w.disk p with
  | ok a => exact leads_return ⟨hw, hopen⟩
  | error e => exact leads_fail hw

end Workplace

open Act in
/-- Metrics are looked up without a change to the files. -/
theorem keeps_loadMetrics (root : Path) (fontEntry : String) {P : Disk → Prop} :
    Keeps (fun w : Workplace => P w.disk) (loadMetrics root fontEntry) := by
  apply leads_get_bind
  intro w hw
  dsimp only
  split
  · refine Leads.bind (Q := fun _ w => P w.disk) ?_ fun _ => leads_pure fun _ h => h
    exact (Workplace.keeps_report _).start hw
  · refine Leads.bind (Q := fun _ w => P w.disk) ?_ fun _ => leads_pure fun _ h => h
    exact (Workplace.keeps_report _).start hw

open Act in
/-- Speakers are looked up without a change to the files. -/
theorem keeps_typesetter (settings : Settings) (metrics? : Option FontMetrics) {P : Disk → Prop} :
    Keeps (fun w : Workplace => P w.disk) (settings.typesetter metrics?) := by
  rw [Settings.typesetter]
  dsimp only
  split
  · refine Leads.bind (Q := fun _ w => P w.disk) ?_ fun _ => leads_pure fun _ h => h
    refine ((Workplace.leads_inspect _).weaken fun _ _ h => h.1).bind fun t => ?_
    split
    · exact leads_pure fun _ h => h
    · exact leads_throw fun _ h => h
  · refine Leads.bind (Q := fun _ w => P w.disk) (leads_pure fun _ h => h) fun _ => leads_pure fun _ h => h

end SceneScript
