/-
Where every invocation of a client is.

A caller touches nothing before it has looked whether the client is closed. Then it makes a
context, puts its call to work and closes the context, with nobody else acting on its thread; so
when it returns, what was active on its thread is active again. All of this is true of every
caller at any time, whatever others do (`Running.Sound`).

* `Stage.Turn.holds` — what one step makes of what holds of a caller.
* `Running.Sound.runs` — what is known of every invocation after any number of steps.
-/
import RemoteCall.Proofs.Client.Running
import RemoteCall.Proofs.Context.Nesting
import RemoteCall.Proofs.Service.Settlement

namespace RemoteCall

/-! ## Early errors -/

/-- An error about how a service is called, or about a parameter. -/
def CallError.Early : CallError → Prop
  | .config _ => True
  | .codec _ => True
  | _ => False

namespace Service

variable {s : Service} {plugins : Plugins} {d : MethodDescriptor} {name : String} {e : CallError}

theorem early_of_codec {options : ResolvedOptions} (h : options.codec plugins = .error e) :
    e.Early := by
  unfold ResolvedOptions.codec CodecOptions.resolve at h
  split at h
  · cases h
    trivial
  · split at h
    · cases h
    · split at h
      · cases h
      · split at h
        · cases h
          trivial
        · cases h

theorem early_of_configure (h : s.configure plugins d = .error e) : e.Early := by
  rw [configure_eq] at h
  split at h
  · next hcodec =>
    cases h
    exact early_of_codec hcodec
  · split at h
    · cases h
      trivial
    · cases h

theorem early_of_method {withParameter : Bool} (h : s.method name withParameter = .error e) :
    e.Early := by
  unfold Service.method at h
  split at h
  · cases h
    trivial
  · split at h
    · cases h
      trivial
    · cases h
      trivial
    · cases h

theorem early_of_checkBlocking (h : s.checkBlocking name = .error e) : e.Early := by
  unfold checkBlocking at h
  split at h
  · split at h
    · cases h
      trivial
    · cases h
  · cases h

end Service

theorem Client.invokeUnwritable_eq (i : Import) (method : String) :
    ∃ e, Client.invokeUnwritable i method = .failed e ∧ e.Early := by
  unfold Client.invokeUnwritable
  cases hmethod : i.service.method method true with
  | error e => exact ⟨e, rfl, Service.early_of_method hmethod⟩
  | ok config => exact ⟨_, rfl, trivial⟩

/-! ## Contexts -/

namespace Forest.Extends

variable {f f' f'' : Forest}

theorem refl (f : Forest) : f.Extends f := ⟨Nat.le_refl _, fun _ _ => rfl⟩

theorem add (f : Forest) (parent : Option ContextId) : f.Extends (f.add parent) where
  length_le := Nat.le_succ _
  parent? _ h := Forest.parent?_add_of_ne f parent (Nat.ne_of_lt h)

end Forest.Extends

/-- The context of an invocation, which is a child of what was active before. -/
structure Invocation.Owns (invocation : Invocation) (id : ContextId) (forest : Forest)
    (before : Option ContextId) : Prop where
  context : invocation.context = some id
  exists_ : id < forest.length
  parent? : forest.parent? id = before

theorem Invocation.Owns.mono {invocation : Invocation} {id : ContextId} {f f' : Forest}
    {before : Option ContextId} (h : invocation.Owns id f before) (grown : f.Extends f') :
    invocation.Owns id f' before :=
  ⟨h.context, Nat.lt_of_lt_of_le h.exists_ grown.length_le,
    (grown.parent? id h.exists_).trans h.parent?⟩

/-! ## Invocations -/

/-- What an invocation has come to when it returns. What was active on its thread is active
again. Either it failed and nothing was put to work: because the client was closed when it
looked, or before it looked; or the call was started, in a context of its own. -/
def Concluded (forest : Forest) (checked : Prop) (task : Option (Invocation × Option Nat))
    (before after : Option ContextId) (call : PendingCall) : Prop :=
  after = before ∧
    ((∃ e, call = .failed e ∧ task = none ∧
        (e = Client.closedError ∧ checked ∨ e.Early ∧ ¬checked)) ∨
      ∃ invocation link id, call = .started invocation link ∧ task = some (invocation, link) ∧
        checked ∧ invocation.Owns id forest before)

theorem Concluded.mono {f f' : Forest} {checked checked' : Prop}
    {task : Option (Invocation × Option Nat)} {before after : Option ContextId}
    {call : PendingCall} (h : Concluded f checked task before after call) (grown : f.Extends f')
    (same : checked' ↔ checked) : Concluded f' checked' task before after call := by
  obtain rfl : checked' = checked := propext same
  obtain ⟨hactive, hfailed | ⟨invocation, link, id, hcall, htask, hchecked, howns⟩⟩ := h
  · exact ⟨hactive, .inl hfailed⟩
  · exact ⟨hactive, .inr ⟨invocation, link, id, hcall, htask, hchecked, howns.mono grown⟩⟩

namespace Stage

/-- What holds of a caller on its way: what is active on its thread, whether it has looked at the
client's mark, and what it has put to work. -/
def Holds (forest : Forest) (checked : Prop) (task : Option (Invocation × Option Nat))
    (before active : Option ContextId) : Stage → Prop
  | .asked _ => active = before ∧ ¬checked ∧ task = none
  | .registering stage _ =>
    stage.unanswered.length = 1 ∧ active = before ∧ ¬checked ∧ task = none
  | .ready _ _ => active = before ∧ ¬checked ∧ task = none
  | .admitted _ _ => active = before ∧ checked ∧ task = none
  | .made invocation id =>
    active = some id ∧ checked ∧ task = none ∧ invocation.Owns id forest before
  | .spawned invocation link id =>
    active = some id ∧ checked ∧ task = some (invocation, link) ∧
      invocation.Owns id forest before
  | .answered call => Concluded forest checked task before active call

variable {L W : Type} {there : Plugins → Prop} {c : Client L W} {i i' : Import}
  {contexts contexts' : Contexts} {stage stage' : Stage} {f f' : Forest} {checked checked' : Prop}
  {task : Option (Invocation × Option Nat)} {before active : Option ContextId}

/-- The next step of the caller is to look at the mark. -/
def Looking : Stage → Prop
  | .ready _ _ => True
  | _ => False

theorem checked_eq_deed_iff {x y : Nat} :
    Deed.checked x = stage.deed y ↔ x = y ∧ stage.Looking := by
  cases stage <;> simp [deed, Looking]

theorem deed_ne_worked (stage : Stage) (x y : Nat) (work : Work) :
    stage.deed x ≠ .worked y work := by
  cases stage <;> intro h <;> cases h

theorem Holds.mono (h : stage.Holds f checked task before active) (grown : f.Extends f')
    (same : checked' ↔ checked) : stage.Holds f' checked' task before active := by
  cases stage with
  | answered call => exact Concluded.mono h grown same
  | made invocation id =>
    obtain ⟨hactive, hchecked, htask, howns⟩ := h
    exact ⟨hactive, same.mpr hchecked, htask, howns.mono grown⟩
  | spawned invocation link id =>
    obtain ⟨hactive, hchecked, htask, howns⟩ := h
    exact ⟨hactive, same.mpr hchecked, htask, howns.mono grown⟩
  | _ =>
    obtain rfl : checked' = checked := propext same
    exact h

theorem Holds.sensible (h : stage.Holds f checked task before active) : stage.Sensible := by
  cases stage with
  | registering _ _ => exact h.1
  | _ => trivial

theorem Holds.checked_of_task? (h : stage.Holds f checked task before active)
    (works : stage.task?.isSome = true) : checked := by
  cases stage with
  | spawned invocation link id => exact h.2.1
  | _ => cases works

theorem Turn.extends (turn : Turn there c i contexts stage i' contexts' stage') :
    contexts.forest.Extends contexts'.forest := by
  cases turn with
  | create => exact .add _ _
  | close =>
    unfold Contexts.close
    split <;> exact .refl _
  | _ => exact .refl _

/-- A caller that fails before it has looked at the mark. -/
theorem Holds.failed_early {e : CallError} (early : e.Early)
    (h : active = before ∧ ¬checked ∧ task = none) :
    (answered (.failed e)).Holds f checked task before active :=
  ⟨h.1, .inl ⟨e, rfl, h.2.2, .inr ⟨early, h.2.1⟩⟩⟩

/-- What one step makes of what holds of a caller. -/
theorem Turn.holds (turn : Turn there c i contexts stage i' contexts' stage')
    (looked : checked' ↔ checked ∨ stage.Looking)
    (h : stage.Holds contexts.forest checked task before contexts.active) :
    stage'.Holds contexts'.forest checked' (stage'.task?.or task) before contexts'.active := by
  by_cases hlooking : stage.Looking
  · have hchecked : checked' := looked.mpr (.inr hlooking)
    cases turn with
    | refused _ => exact ⟨h.1, .inl ⟨_, rfl, h.2.2, .inl ⟨rfl, hchecked⟩⟩⟩
    | admitted _ => exact ⟨h.1, hchecked, h.2.2⟩
    | _ => exact absurd hlooking id
  · obtain rfl : checked' = checked := propext (looked.trans (or_iff_left hlooking))
    cases turn with
    | typed _ => exact h
    | misfit misfit => exact .failed_early (Service.early_of_method misfit) h
    | @unwritable method =>
      obtain ⟨e, hcall, hearly⟩ := Client.invokeUnwritable_eq i method
      rw [hcall]
      exact .failed_early hearly h
    | blocking _ => exact h
    | async async => exact .failed_early (Service.early_of_checkBlocking async) h
    | untyped => exact ⟨rfl, h⟩
    | look turn =>
      obtain ⟨hone, hrest⟩ := h
      rw [← turn.unanswered_of_nil] at hone
      exact ⟨hone, hrest⟩
    | registered _ => exact h.2
    | unregistered turn =>
      obtain ⟨-, used, -, hfails⟩ := turn.of_error (List.mem_singleton_self _)
      exact .failed_early (Service.early_of_configure hfails) h.2
    | refused _ => exact absurd trivial hlooking
    | admitted _ => exact absurd trivial hlooking
    | create =>
      obtain ⟨hactive, hchecked, htask⟩ := h
      refine ⟨rfl, hchecked, htask, rfl, Nat.lt_succ_self _, ?_⟩
      exact (Forest.parent?_add ..).trans hactive
    | spawn =>
      obtain ⟨hactive, hchecked, -, howns⟩ := h
      exact ⟨hactive, hchecked, rfl, howns⟩
    | @close invocation link id =>
      obtain ⟨hactive, hchecked, htask, howns⟩ := h
      have hclose : contexts.close id = { contexts with active := before } := by
        rw [Contexts.close, if_pos hactive, howns.parent?]
      rw [hclose]
      exact ⟨rfl, .inr ⟨invocation, link, id, rfl, htask, hchecked, howns⟩⟩

end Stage

namespace Running

variable {L W : Type} {r r' : Running L W} {deeds : List Deed} {deed : Deed}

/-! ## Where every invocation is -/

/-- What is known of every invocation, wherever it has come to. -/
structure Sound (r : Running L W) (deeds : List Deed) : Prop where
  busy : ∀ t caller, (r.threads t).caller = some caller →
    caller.call < r.begun ∧ r.reports caller.call = none ∧
      (∃ i, r.imports caller.service = some i) ∧
      caller.stage.Holds r.forest (.checked caller.call ∈ deeds) (r.tasks caller.call)
        caller.before (r.threads t).active
  apart : ∀ t t' caller caller', (r.threads t).caller = some caller →
    (r.threads t').caller = some caller' → caller.call = caller'.call → t = t'
  report : ∀ x report, r.reports x = some report → x < r.begun ∧
    Concluded r.forest (.checked x ∈ deeds) (r.tasks x) report.before report.after report.call
  fresh : ∀ x, r.begun ≤ x → r.tasks x = none ∧ .checked x ∉ deeds
  /-- Only who has looked at the mark puts a call to work. -/
  task : ∀ x, (r.tasks x).isSome = true → .checked x ∈ deeds
  worked : ∀ x work, .worked x work ∈ deeds → (r.tasks x).isSome = true

namespace Sound

variable {there : Plugins → Prop}

theorem reports_of_le (h : Sound r deeds) {x : Nat} (le : r.begun ≤ x) : r.reports x = none := by
  cases hreport : r.reports x with
  | none => rfl
  | some report => exact absurd (h.report x report hreport).1 (Nat.not_lt.mpr le)

/-- A step by which no caller gets on and no call is put to work. A caller may return. -/
theorem of_other (h : Sound r deeds)
    (callers : ∀ t caller, (r'.threads t).caller = some caller →
      (r.threads t).caller = some caller ∧ (r'.threads t).active = (r.threads t).active ∧
        r'.reports caller.call = none)
    (reports : ∀ x report, r'.reports x = some report → r.reports x = some report ∨
      x < r.begun ∧ Concluded r.forest (.checked x ∈ deeds) (r.tasks x) report.before
        report.after report.call)
    (imports : ∀ s i, r.imports s = some i → ∃ i', r'.imports s = some i')
    (begun : r'.begun = r.begun) (tasks : r'.tasks = r.tasks)
    (grown : r.forest.Extends r'.forest) (unlooked : ∀ x, deed ≠ .checked x)
    (worker : ∀ x work, deed = .worked x work → (r.tasks x).isSome = true) :
    Sound r' (deeds ++ [deed]) := by
  have hchecked : ∀ x, .checked x ∈ deeds ++ [deed] ↔ .checked x ∈ deeds := by
    intro x
    rw [List.mem_append, List.mem_singleton]
    exact or_iff_left fun heq => unlooked x heq.symm
  refine ⟨?_, ?_, ?_, ?_, ?_, ?_⟩
  · intro t caller hbusy
    obtain ⟨hbusy, hactive, hreport⟩ := callers t caller hbusy
    obtain ⟨hlt, -, ⟨i, hfound⟩, hholds⟩ := h.busy t caller hbusy
    rw [begun, tasks, hactive]
    exact ⟨hlt, hreport, imports _ i hfound, hholds.mono grown (hchecked _)⟩
  · intro t t' caller caller' hbusy hbusy' hsame
    exact h.apart t t' caller caller' (callers t caller hbusy).1 (callers t' caller' hbusy').1 hsame
  · intro x report hreport
    have hbefore : x < r.begun ∧ Concluded r.forest (.checked x ∈ deeds) (r.tasks x)
        report.before report.after report.call := by
      rcases reports x report hreport with hold | hnew
      · exact h.report x report hold
      · exact hnew
    rw [begun, tasks]
    exact ⟨hbefore.1, hbefore.2.mono grown (hchecked x)⟩
  · intro x hle
    rw [begun] at hle
    rw [tasks, hchecked]
    exact h.fresh x hle
  · intro x htask
    rw [tasks] at htask
    exact (hchecked x).mpr (h.task x htask)
  · intro x work hworked
    rw [tasks]
    rcases List.mem_append.mp hworked with hworked | hworked
    · exact h.worked x work hworked
    · exact worker x work (List.mem_singleton.mp hworked).symm

theorem begin {t s : Nat} {i : Import} (h : Sound r deeds) (found : r.imports s = some i)
    (ask : Ask) : Sound (r.asking t s ask) (deeds ++ [.began r.begun]) := by
  have hchecked : ∀ x, .checked x ∈ deeds ++ [.began r.begun] ↔ .checked x ∈ deeds := by simp
  obtain ⟨htask, hunchecked⟩ := h.fresh r.begun (Nat.le_refl _)
  refine ⟨?_, ?_, ?_, ?_, ?_, ?_⟩
  · intro t' caller hbusy
    by_cases heq : t' = t
    · subst heq
      rw [threads_asking_self] at hbusy
      cases hbusy
      rw [threads_asking_self]
      exact ⟨Nat.lt_succ_self _, h.reports_of_le (Nat.le_refl _), ⟨i, found⟩, rfl,
        mt (hchecked _).mp hunchecked, htask⟩
    · rw [threads_asking_of_ne heq] at hbusy
      rw [active_asking]
      obtain ⟨hlt, hreport, hfound, hholds⟩ := h.busy t' caller hbusy
      exact ⟨Nat.lt_succ_of_lt hlt, hreport, hfound, hholds.mono (.refl _) (hchecked _)⟩
  · have hcall : ∀ t' caller, ((r.asking t s ask).threads t').caller = some caller →
        t' = t ∧ caller.call = r.begun ∨
          (r.threads t').caller = some caller ∧ caller.call < r.begun := by
      intro t' caller hbusy
      by_cases heq : t' = t
      · subst heq
        rw [threads_asking_self] at hbusy
        cases hbusy
        exact .inl ⟨rfl, rfl⟩
      · rw [threads_asking_of_ne heq] at hbusy
        exact .inr ⟨hbusy, (h.busy t' caller hbusy).1⟩
    intro t' t'' caller caller' hbusy hbusy' hsame
    rcases hcall t' caller hbusy with ⟨heq, hnew⟩ | ⟨hold, hlt⟩
    · rcases hcall t'' caller' hbusy' with ⟨heq', -⟩ | ⟨-, hlt'⟩
      · exact heq.trans heq'.symm
      · omega
    · rcases hcall t'' caller' hbusy' with ⟨-, hnew⟩ | ⟨hold', -⟩
      · omega
      · exact h.apart t' t'' caller caller' hold hold' hsame
  · intro x report hreport
    obtain ⟨hlt, hconcluded⟩ := h.report x report hreport
    rw [propext (hchecked x)]
    exact ⟨Nat.lt_succ_of_lt hlt, hconcluded⟩
  · intro x hle
    rw [hchecked]
    exact h.fresh x (Nat.le_of_succ_le hle)
  · intro x hx
    exact (hchecked x).mpr (h.task x hx)
  · intro x work hworked
    rcases List.mem_append.mp hworked with hworked | hworked
    · exact h.worked x work hworked
    · cases List.mem_singleton.mp hworked

theorem turn {t : Nat} {caller : Caller} {i i' : Import} {contexts' : Contexts} {stage' : Stage}
    (h : Sound r deeds) (busy : (r.threads t).caller = some caller)
    (turn : Stage.Turn there r.client i (r.contexts t) caller.stage i' contexts' stage') :
    Sound (r.turned t caller i' contexts' stage') (deeds ++ [caller.stage.deed caller.call]) := by
  obtain ⟨hlt, hreport, -, hholds⟩ := h.busy t caller busy
  have hlooked : .checked caller.call ∈ deeds ++ [caller.stage.deed caller.call] ↔
      .checked caller.call ∈ deeds ∨ caller.stage.Looking := by
    rw [List.mem_append, List.mem_singleton, Stage.checked_eq_deed_iff]
    simp
  have hother : ∀ x, x ≠ caller.call →
      (.checked x ∈ deeds ++ [caller.stage.deed caller.call] ↔ .checked x ∈ deeds) := by
    intro x hne
    rw [List.mem_append, List.mem_singleton, Stage.checked_eq_deed_iff]
    exact or_iff_left fun hsame => hne hsame.1
  have hnext : stage'.Holds contexts'.forest
      (.checked caller.call ∈ deeds ++ [caller.stage.deed caller.call])
      (stage'.task?.or (r.tasks caller.call)) caller.before contexts'.active :=
    turn.holds hlooked hholds
  have hgrown : r.forest.Extends contexts'.forest := turn.extends
  have himports : ∀ s i, r.imports s = some i →
      ∃ i'', (r.turned t caller i' contexts' stage').imports s = some i'' := by
    intro s i hfound
    by_cases heq : s = caller.service
    · exact ⟨i', by rw [heq, imports_turned_self]⟩
    · exact ⟨i, by rw [imports_turned_of_ne heq, hfound]⟩
  refine ⟨?_, ?_, ?_, ?_, ?_, ?_⟩
  · intro t' caller' hbusy
    by_cases heq : t' = t
    · subst heq
      rw [threads_turned_self] at hbusy
      cases hbusy
      rw [threads_turned_self, tasks_turned_self]
      exact ⟨hlt, hreport, ⟨i', imports_turned_self⟩, hnext⟩
    · rw [threads_turned_of_ne heq] at hbusy
      obtain ⟨hlt', hreport', ⟨i, hfound⟩, hholds'⟩ := h.busy t' caller' hbusy
      have hne : caller'.call ≠ caller.call := fun hsame =>
        heq (h.apart t' t caller' caller hbusy busy hsame)
      rw [threads_turned_of_ne heq, tasks_turned_of_ne hne]
      exact ⟨hlt', hreport', himports _ i hfound, hholds'.mono hgrown (hother _ hne)⟩
  · have hold : ∀ t' caller', ((r.turned t caller i' contexts' stage').threads t').caller =
        some caller' → ∃ before, (r.threads t').caller = some before ∧
          before.call = caller'.call := by
      intro t' caller' hbusy
      by_cases heq : t' = t
      · subst heq
        rw [threads_turned_self] at hbusy
        cases hbusy
        exact ⟨caller, busy, rfl⟩
      · rw [threads_turned_of_ne heq] at hbusy
        exact ⟨caller', hbusy, rfl⟩
    intro t' t'' caller' caller'' hbusy hbusy' hsame
    obtain ⟨before, hbefore, hcall⟩ := hold t' caller' hbusy
    obtain ⟨before', hbefore', hcall'⟩ := hold t'' caller'' hbusy'
    exact h.apart t' t'' before before' hbefore hbefore' (by rw [hcall, hcall', hsame])
  · intro x report hx
    obtain ⟨hltx, hconcluded⟩ := h.report x report hx
    have hne : x ≠ caller.call := by
      rintro rfl
      have hnone : r.reports caller.call = some report := hx
      rw [hreport] at hnone
      cases hnone
    rw [tasks_turned_of_ne hne]
    exact ⟨hltx, hconcluded.mono hgrown (hother x hne)⟩
  · intro x hle
    have hne : x ≠ caller.call := fun heq => absurd hlt (Nat.not_lt.mpr (heq ▸ hle))
    rw [tasks_turned_of_ne hne, hother x hne]
    exact h.fresh x hle
  · intro x hx
    by_cases heq : x = caller.call
    · subst heq
      rw [tasks_turned_self, Option.isSome_or, Bool.or_eq_true] at hx
      rcases hx with hnew | hold
      · exact hnext.checked_of_task? hnew
      · exact List.mem_append_left _ (h.task _ hold)
    · rw [tasks_turned_of_ne heq] at hx
      exact (hother x heq).mpr (h.task x hx)
  · intro x work hworked
    rcases List.mem_append.mp hworked with hworked | hworked
    · have hsome := h.worked x work hworked
      by_cases heq : x = caller.call
      · subst heq
        rw [tasks_turned_self, Option.isSome_or, hsome, Bool.or_true]
      · rw [tasks_turned_of_ne heq]
        exact hsome
    · have hdeed := List.mem_singleton.mp hworked
      exact absurd hdeed.symm (caller.stage.deed_ne_worked caller.call x work)

theorem leave {t : Nat} {caller : Caller} {call : PendingCall} (h : Sound r deeds)
    (busy : (r.threads t).caller = some caller) (answered : caller.stage = .answered call) :
    Sound (r.left t caller call) (deeds ++ [.returned caller.call]) := by
  obtain ⟨hlt, -, -, hholds⟩ := h.busy t caller busy
  rw [answered] at hholds
  refine h.of_other ?_ ?_ (fun s i hfound => ⟨i, hfound⟩) rfl rfl (.refl _) (by simp) (by simp)
  · intro t' other hbusy
    by_cases heq : t' = t
    · subst heq
      rw [threads_left_self] at hbusy
      cases hbusy
    · rw [threads_left_of_ne heq] at hbusy
      have hne : other.call ≠ caller.call := fun hsame =>
        heq (h.apart t' t other caller hbusy busy hsame)
      rw [reports_left_of_ne hne]
      exact ⟨hbusy, active_left, (h.busy t' other hbusy).2.1⟩
  · intro x report hreport
    by_cases heq : x = caller.call
    · subst heq
      rw [reports_left_self] at hreport
      cases hreport
      exact .inr ⟨hlt, hholds⟩
    · rw [reports_left_of_ne heq] at hreport
      exact .inl hreport

/-- A step that leaves all callers where they are. -/
theorem of_aside (h : Sound r deeds) (threads : r'.threads = r.threads)
    (reports : r'.reports = r.reports)
    (imports : ∀ s i, r.imports s = some i → ∃ i', r'.imports s = some i')
    (begun : r'.begun = r.begun) (tasks : r'.tasks = r.tasks)
    (grown : r.forest.Extends r'.forest) (unlooked : ∀ x, deed ≠ .checked x)
    (worker : ∀ x work, deed = .worked x work → (r.tasks x).isSome = true) :
    Sound r' (deeds ++ [deed]) := by
  refine h.of_other ?_ ?_ imports begun tasks grown unlooked worker
  · intro t caller hbusy
    rw [threads] at hbusy ⊢
    rw [reports]
    exact ⟨hbusy, rfl, (h.busy t caller hbusy).2.1⟩
  · intro x report hreport
    rw [reports] at hreport
    exact .inl hreport

variable [Locator L]

theorem step (h : Sound r deeds) (step : Step there r deed r') : Sound r' (deeds ++ [deed]) := by
  have hsame : ∀ s i, r.imports s = some i → ∃ i', r.imports s = some i' := fun _ i hi => ⟨i, hi⟩
  have hset : ∀ place i s i', r.imports s = some i' →
      ∃ i'', Function.update r.imports place (some i) s = some i'' := by
    intro place i s i' hi'
    rw [Function.update_apply]
    split
    · exact ⟨i, rfl⟩
    · exact ⟨i', hi'⟩
  cases step with
  | begin _ found ask => exact h.begin found ask
  | turn busy _ turn => exact h.turn busy turn
  | leave busy answered => exact h.leave busy answered
  | swap _ => exact h.of_aside rfl rfl hsame rfl rfl (.refl _) (by simp) (by simp)
  | close next =>
    refine h.of_aside rfl rfl hsame rfl rfl (.refl _) ?_ ?_ <;>
      rcases next.deed_cases with rfl | rfl | rfl <;> simp
  | work task _ grown =>
    refine h.of_aside rfl rfl hsame rfl rfl grown (by simp) fun y work hdeed => ?_
    cases hdeed
    rw [task]
    rfl
  | @thread t active forest idle grown =>
    refine h.of_other (fun t' caller hbusy => ?_) (fun _ _ => .inl) hsame rfl rfl grown (by simp)
      (by simp)
    by_cases heq : t' = t
    · subst heq
      simp at hbusy
    · simp only [Function.update_of_ne heq] at hbusy ⊢
      exact ⟨hbusy, trivial, (h.busy t' caller hbusy).2.1⟩
  | register _ _ => exact h.of_aside rfl rfl (hset _ _) rfl rfl (.refl _) (by simp) (by simp)
  | newImport _ _ => exact h.of_aside rfl rfl (hset _ _) rfl rfl (.refl _) (by simp) (by simp)

theorem runs {r₀ : Running L W} (h : Sound r₀ []) (run : Runs there r₀ deeds r) :
    Sound r deeds := by
  induction run with
  | refl => exact h
  | tail _ step ih => exact ih.step step

end Sound

end Running

end RemoteCall
