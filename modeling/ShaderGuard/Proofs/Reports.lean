import ShaderGuard.Proofs.Frame

/-!
# Reports of internal errors

An internal error switches instrumentation off, and only the error that does so is reported. So the
reports in the log and the one that is still to come, if instrumentation is on, add up to the same
number at all times (`Instrumentor.reports`). Everything that hooks do keeps this number, and
nothing switches instrumentation on again (`ReportsOnce`): devices and tools add no reports of their
own to the log, and what the library records for its own sake says of no internal error. Behind a
run there is thus one report if instrumentation is off, and none if it is on
(`Session.internalErrors_run`).
-/

set_option autoImplicit false

namespace ShaderGuard

open Bytecode (ShaderId)

/-! ### Reports in a log -/

/-- The entries of a log that say that instrumentation is being switched off. -/
def internalErrors (log : List Entry) : List Entry := log.filter Entry.reportsInternalError

theorem internalErrors_append (first second : List Entry) :
    internalErrors (first ++ second) = internalErrors first ++ internalErrors second :=
  List.filter_append first second

/-- Entries that say of no internal error count for nothing. -/
theorem internalErrors_append_of_forall {log entries : List Entry}
    (h : ∀ entry ∈ entries, entry.reportsInternalError = false) :
    internalErrors (log ++ entries) = internalErrors log := by
  have hnone : internalErrors entries = [] := by
    refine List.filter_eq_nil_iff.mpr fun entry hentry ↦ ?_
    rw [h entry hentry]
    exact Bool.false_ne_true
  rw [internalErrors_append, hnone, List.append_nil]

theorem internalErrors_record {log : List Entry} {entry : Entry}
    (h : entry.reportsInternalError = false) :
    internalErrors (log ++ [entry]) = internalErrors log :=
  internalErrors_append_of_forall fun _ hmem ↦ by rwa [List.mem_singleton.mp hmem]

/-- What a device adds to the log are no reports. -/
theorem internalErrors_notes (log : List Entry) (notes : List Note) :
    internalErrors (log ++ notes.map Note.entry) = internalErrors log := by
  refine internalErrors_append_of_forall fun entry hentry ↦ ?_
  obtain ⟨note, -, rfl⟩ := List.mem_map.mp hentry
  rfl

theorem reportsInternalError_errorReport (settings : Settings) (location message : String) :
    (Subsystem.errorReport settings location message).reportsInternalError = true := by
  unfold Subsystem.errorReport
  cases settings.printfOnly <;> rfl

/-- What is logged of a report whose stage is unknown is no report of an internal error. -/
theorem reportsInternalError_message (violation : Violation) (shader : Option InstrumentedShader)
    (names : ObjectNames) (printfOnly : Bool) :
    ∀ entry ∈ (violation.message shader names printfOnly).log,
      entry.reportsInternalError = false := by
  unfold Violation.message
  split
  · exact fun entry hentry ↦ absurd hentry List.not_mem_nil
  · unfold stageMessage
    simp only []
    split
    · exact fun entry hentry ↦ absurd hentry List.not_mem_nil
    · rw [List.forall_mem_singleton]
      rfl

variable {P : Platform}

/-! ### What the passes log -/

/-- Whether an entry may come of the passes: it has no class, or it is the optimizer's about a
shader. -/
def Entry.isOfPasses (entry : Entry) : Bool :=
  entry.messageClass = none || entry.messageClass = some .instrumentationError

theorem Entry.reportsInternalError_of_isOfPasses {entry : Entry} (h : entry.isOfPasses = true) :
    entry.reportsInternalError = false := by
  unfold isOfPasses at h
  unfold reportsInternalError
  rcases Bool.or_eq_true_iff.mp h with hclass | hclass <;> rw [of_decide_eq_true hclass] <;> rfl

/-- Whether an entry is a warning of the library's own. -/
def Entry.isWarning (entry : Entry) : Bool :=
  entry.messageClass = some .internalWarning || entry.messageClass = some .printfWarning

theorem Entry.isWarning_of_isOfPasses {entry : Entry} (h : entry.isOfPasses = true) :
    entry.isWarning = false := by
  unfold isOfPasses at h
  unfold isWarning
  rcases Bool.or_eq_true_iff.mp h with hclass | hclass <;> rw [of_decide_eq_true hclass] <;> rfl

theorem Entry.isWarning_errorReport (settings : Settings) (location message : String) :
    (Subsystem.errorReport settings location message).isWarning = false := by
  unfold Subsystem.errorReport
  cases settings.printfOnly <;> rfl

theorem Entry.isWarning_warningReport (settings : Settings) (location message : String) :
    (Subsystem.warningReport settings location message).isWarning = true := by
  unfold Subsystem.warningReport
  cases settings.printfOnly <;> rfl

namespace PassPlan

/-- That nothing is logged between two workbenches but what the passes may log. -/
def Logs (bench after : Workbench P) : Prop :=
  ∃ entries, after.log = bench.log ++ entries ∧ ∀ entry ∈ entries, entry.isOfPasses = true

namespace Logs

theorem of_log_eq {bench after : Workbench P} (h : after.log = bench.log) : Logs bench after :=
  ⟨[], h.trans (List.append_nil _).symm, fun _ hentry ↦ absurd hentry List.not_mem_nil⟩

theorem record (bench : Workbench P) {entry : Entry} (h : entry.isOfPasses = true) :
    Logs bench (bench.record entry) := ⟨[entry], rfl, by rwa [List.forall_mem_singleton]⟩

theorem trans {bench after last : Workbench P} (hfirst : Logs bench after)
    (hsecond : Logs after last) : Logs bench last := by
  obtain ⟨first, hlog, hof⟩ := hfirst
  obtain ⟨second, hlog', hof'⟩ := hsecond
  refine ⟨first ++ second, ?_, List.forall_mem_append.mpr ⟨hof, hof'⟩⟩
  rw [hlog', hlog, List.append_assoc]

end Logs

variable (plan : PassPlan)

theorem logs_dump (bench : Workbench P) (id : ShaderId) (stage : DumpStage) (code : Code) :
    Logs bench (plan.dump bench id stage code) := by
  unfold dump
  split
  · simp only []
    split
    · exact .of_log_eq rfl
    · exact .record { bench with storage := _ } rfl
  · exact .of_log_eq rfl

theorem logs_validate (bench : Workbench P) (id : ShaderId) (code : Code) :
    Logs bench (plan.validate bench id code).2 := by
  unfold validate
  split <;> exact .of_log_eq rfl

/-- What the optimizer says is about a shader. -/
theorem isOfPasses_toolEntry? {message : ToolMessage} {entry : Entry}
    (h : toolEntry? message = some entry) : entry.isOfPasses = true := by
  unfold toolEntry? at h
  split at h
  · obtain rfl := Option.some.inj h
    rfl
  · cases h

theorem logs_optimize (bench : Workbench P) (id : ShaderId) (code : Code) :
    Logs bench (plan.optimize bench id code).2 := by
  unfold optimize
  split
  · exact .of_log_eq rfl
  · generalize P.tools.eliminateDeadCode _ _ _ = answer
    have hmessages : Logs bench { bench with
        tools := answer.2.2, log := bench.log ++ answer.2.1.filterMap toolEntry? } := by
      refine ⟨_, rfl, fun entry hentry ↦ ?_⟩
      obtain ⟨message, -, hsome⟩ := List.mem_filterMap.mp hentry
      exact isOfPasses_toolEntry? hsome
    simp only []
    split
    · exact hmessages.trans (plan.logs_dump _ id .optimized _)
    · exact hmessages

theorem logs_finish (bench : Workbench P) (id : ShaderId) (module : P.tools.Module) :
    Logs bench (plan.finish bench id module).2 := by
  unfold finish
  simp only []
  generalize P.tools.serialize _ _ = written
  have hdumped : Logs bench (plan.dump { bench with tools := written.2 } id .after written.1) :=
    plan.logs_dump { bench with tools := written.2 } id .after written.1
  have hvalidated := hdumped.trans (plan.logs_validate _ id written.1)
  split
  · exact hvalidated
  · exact hvalidated.trans (plan.logs_optimize _ id written.1)

theorem logs_instrument (bench : Workbench P) (id : ShaderId) (module : P.tools.Module) :
    Logs bench (plan.instrument bench id module).2 := by
  unfold instrument
  simp only []
  split
  · exact plan.logs_finish { bench with tools := _ } id _
  · exact .record { bench with tools := _ } rfl

/-- A run of the passes logs nothing but what the passes may log. -/
theorem logs_run (bench : Workbench P) (code : Code) (id : ShaderId) (bindless : Bool) :
    Logs bench (plan.run bench code id bindless).2 := by
  unfold run
  split
  · have hdumped := plan.logs_dump bench id .before code
    simp only []
    split
    · exact hdumped
    · exact hdumped.trans
        (plan.logs_instrument { plan.dump bench id .before code with tools := _ } id _)
  · exact .of_log_eq rfl

/-- So it reports no internal error. -/
theorem internalErrors_log_run (bench : Workbench P) (code : Code) (id : ShaderId) (bindless : Bool) :
    internalErrors (plan.run bench code id bindless).2.log = internalErrors bench.log := by
  obtain ⟨entries, hlog, hof⟩ := plan.logs_run bench code id bindless
  rw [hlog]
  exact internalErrors_append_of_forall fun entry hentry ↦
    Entry.reportsInternalError_of_isOfPasses (hof entry hentry)

end PassPlan

namespace Instrumentor

/-! ### One report at most -/

/-- The number of reports of internal errors, with the one that is still to come. -/
def reports (s : Instrumentor P) : Nat :=
  (internalErrors s.log).length + if s.subsystem.active then 1 else 0

/-- That between two states instrumentation is not switched on, and that an internal error is
reported exactly if it switches instrumentation off. -/
structure ReportsOnce (s t : Instrumentor P) : Prop where
  off : s.subsystem.active = false → t.subsystem.active = false
  reports : t.reports = s.reports

namespace ReportsOnce

theorem refl (s : Instrumentor P) : ReportsOnce s s := ⟨fun h ↦ h, rfl⟩

theorem trans {s t u : Instrumentor P} (hst : ReportsOnce s t) (htu : ReportsOnce t u) :
    ReportsOnce s u :=
  ⟨fun h ↦ htu.off (hst.off h), htu.reports.trans hst.reports⟩

/-- Where nothing is reported and nothing is switched. -/
theorem of_silent {s t : Instrumentor P} (hsubsystem : t.subsystem = s.subsystem)
    (hlog : internalErrors t.log = internalErrors s.log) : ReportsOnce s t := by
  constructor
  · intro hoff
    rw [hsubsystem]
    exact hoff
  · unfold Instrumentor.reports
    rw [hsubsystem, hlog]

theorem record (s : Instrumentor P) {entry : Entry} (h : entry.reportsInternalError = false) :
    ReportsOnce s (s.record entry) := of_silent rfl (internalErrors_record h)

theorem warn (s : Instrumentor P) (location message : String) :
    ReportsOnce s (s.warn location message) :=
  record s (reportsInternalError_warning _ _ _)

theorem after {α : Type} (s : Instrumentor P) (reply : Reply P.DeviceState α) :
    ReportsOnce s (s.after reply).2 := of_silent rfl (internalErrors_notes s.log reply.notes)

/-- The error that switches instrumentation off is reported, and no other. -/
theorem internalError (s : Instrumentor P) (location message : String) :
    ReportsOnce s (s.internalError location message) := by
  refine ⟨fun _ ↦ rfl, ?_⟩
  have hone : internalErrors [Subsystem.errorReport s.subsystem.settings location message] =
      [Subsystem.errorReport s.subsystem.settings location message] :=
    List.filter_cons_of_pos (reportsInternalError_errorReport _ _ _)
  unfold Instrumentor.reports Instrumentor.internalError Subsystem.errorEntries
  rw [internalErrors_append]
  cases s.subsystem.active with
  | true => simp [hone]
  | false => simp [internalErrors]

theorem instrumentCode (s : Instrumentor P) (code : Code) (bindless : Bool) (location : String) :
    ReportsOnce s (s.instrumentCode code bindless location).2 := by
  have hidentify : ReportsOnce s (s.identify code).2 := by
    unfold identify
    split <;> exact of_silent rfl rfl
  unfold Instrumentor.instrumentCode
  split
  · exact refl s
  · next resources _ =>
    split
    · simp only []
      split
      · exact hidentify.trans (record _ (reportsInternalError_plain _ _ _))
      · refine hidentify.trans ?_
        generalize (s.identify code).2 = u
        have hran := (u.passPlan resources).internalErrors_log_run u.toWorkbench code (s.identify code).1
          bindless
        unfold runPasses
        simp only []
        generalize (u.passPlan resources).run u.toWorkbench code (s.identify code).1 bindless = ran
          at hran ⊢
        have hworked : ReportsOnce u { u with toWorkbench := ran.2 } := of_silent rfl hran
        split
        · refine hworked.trans ?_
          unfold keep
          split <;> exact of_silent rfl rfl
        · exact hworked
        · exact hworked
        · exact hworked.trans (ReportsOnce.internalError _ _ _)
    · exact refl s

theorem rewrites : RewritesQuietly fun (s : Instrumentor P) _ t ↦ ReportsOnce s t where
  refl := refl
  trans := trans
  record s _ h := record s h
  internalError := ReportsOnce.internalError
  createModule s _ := after s _
  createLibrary s _ := after s _
  instrumentCode := ReportsOnce.instrumentCode

theorem bookkeeping : QuietBookkeeping (P := P) ReportsOnce where
  refl := refl
  trans := trans
  destroyModule s _ := after s _
  destroyLibrary s _ := after s _
  note _ _ _ _ := of_silent rfl rfl
  record s _ h := record s h

theorem notes : Notes (P := P) ReportsOnce where
  refl := refl
  trans := trans
  warn := ReportsOnce.warn
  internalError := ReportsOnce.internalError
  message _ violation names :=
    of_silent rfl (internalErrors_append_of_forall
      (reportsInternalError_message violation _ names _))

theorem reserves : Reserves (P := P) ReportsOnce where
  refl := refl
  trans := trans
  destroySetLayout s _ := after s _
  destroyPipelineLayout s _ := after s _
  createSetLayout s _ := after s _
  createPipelineLayout s _ := after s _
  internalError := ReportsOnce.internalError

theorem setUpDevice (s : Instrumentor P) (capabilities : Capabilities) :
    ReportsOnce s (s.setUpDevice capabilities).2 :=
  reserves.setUpDevice (fun _ _ _ h ↦ of_silent rfl (internalErrors_record h)) s capabilities

theorem tearDownDevice (s : Instrumentor P) : ReportsOnce s s.tearDownDevice :=
  reserves.toClears.tearDownDevice (fun _ ↦ of_silent rfl rfl) s

end ReportsOnce

end Instrumentor

namespace Session

open Instrumentor

/-- No hook switches instrumentation on, and each reports an internal error exactly if it switches
instrumentation off. -/
theorem reportsOnce_step (t : Session P) (hook : Hook) :
    ReportsOnce t.state (t.step hook).state := by
  by_cases hrecords : hook.recordsOnly = true
  · exact quietBookkeeping_step ReportsOnce.bookkeeping t hrecords
  · cases hook with
    | setUpDevice capabilities => exact .setUpDevice t.state capabilities
    | tearDownDevice => exact .tearDownDevice t.state
    | moduleCreated module selected =>
      simp only [step, become, moduleCreated]
      split <;> exact .of_silent rfl rfl
    | moduleDestroyed module => exact .of_silent rfl rfl
    | preparePipelines infos location =>
      exact ReportsOnce.rewrites.preparePipelines t.state infos location
    | prepareShaderObjects infos call =>
      exact ReportsOnce.rewrites.prepareShaderObjects t.state infos call
    | shaderObjectsCreated creation objects =>
      simp only [step, finishShaderObjects]
      split
      · exact .refl t.state
      · next drafts _ =>
        obtain ⟨registry, shaderObjects, hafter⟩ :=
          exists_shaderObjectsCreated_eq t.state drafts objects
        rw [hafter]
        exact .of_silent rfl rfl
    | shaderObjectDestroyed object => exact .of_silent rfl rfl
    | _ => first | exact absurd rfl hrecords | exact notes_step ReportsOnce.notes t rfl (by simp)

theorem reportsOnce_run (t : Session P) (hooks : List Hook) :
    ReportsOnce t.state (t.run hooks).state := by
  induction hooks generalizing t with
  | nil => exact .refl t.state
  | cons hook rest ih => exact (reportsOnce_step t hook).trans (ih (t.step hook))

/-- No run switches instrumentation on. -/
theorem inactive_run {t : Session P} (hoff : t.state.subsystem.active = false)
    (hooks : List Hook) : (t.run hooks).state.subsystem.active = false :=
  (reportsOnce_run t hooks).off hoff

/-- Behind a run one internal error has been reported if instrumentation is off, and none if it is
on. -/
theorem internalErrors_run (settings : Settings) (device : P.DeviceState) (tools : P.ToolState)
    (storage : P.StorageState) (hooks : List Hook) :
    let s := ((start settings device tools storage : Session P).run hooks).state
    (internalErrors s.log).length = if s.subsystem.active then 0 else 1 := by
  intro s
  let first : Session P := start settings device tools storage
  have hreports : s.reports = 1 := (reportsOnce_run first hooks).reports
  unfold reports at hreports
  cases hactive : s.subsystem.active with
  | true => simpa [hactive] using hreports
  | false => simpa [hactive] using hreports

end Session

end ShaderGuard
