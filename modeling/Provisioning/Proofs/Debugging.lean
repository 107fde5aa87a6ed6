import Provisioning.Proofs.Commencing
import Provisioning.Proofs.Mirroring

/-!
The commands with debugging on and with debugging off. Every command asks for the same child
processes, ends the same way and shows the same, but for the wording of the reports on failed steps.
-/
namespace Provisioning.CommandLine

open Activity

variable {σ : Type} {debug debug' : Bool}

section Targets

variable (w : World σ)

theorem speaks_of_candid {t : Target σ} (candid : t.Candid) : t.Speaks := by
  have speaks (f : Fault) (h : f.TellsOfTarget) : f.Speaks := by
    intro provisioning
    obtain ⟨target, reason, rfl⟩ := h provisioning
    exact Target.speaks_unavailable target reason rfl
  exact ⟨candid.question.imp (fun _ h => h) speaks,
    fun x => (candid.line x).imp (fun _ h => h) speaks⟩

variable {w} {u : Surroundings} {o : TargetChoice}

theorem speaks_of_prepared {s : σ} {t : Target σ} (h : (prepareTarget u w o s).answer = .ok t) :
    t.Speaks :=
  target_of_prepared (fun m => speaks_of_candid (m.candid_target w))
    (fun _ _ _ _ => speaks_of_candid (Target.candid_host w _ _ _ _)) h

theorem unreported_prepareTarget :
    (prepareTarget u w o).Leaves fun tr _ => Unreported tr := by
  intro s
  rcases trace_prepareTarget (u := u) (w := w) (o := o) (s := s) with htrace | ⟨-, m, e, htrace⟩
  · rw [htrace]
    exact .nil
  · rw [htrace]
    refine Unreported.append ?_ (.exchanged [e])
    simp [Unreported, Console.info, Event.opensReport_outLine]

end Targets

section Commands

variable (u : Surroundings) (w : World σ) (c c' : Console)

theorem handle_mirrors (f : Fault) :
    Mirrors c.debug c'.debug (handle c f : Activity Event σ Int) (handle c' f) := by
  rintro s _ rfl
  rw [handle_apply, handle_apply]
  exact ⟨.of_overt (overt_handledReport c f) (overt_handledReport c' f), rfl, rfl⟩

theorem guarded_mirrors {x x' : Activity Event σ Int} (expects : Fault → Bool)
    (hx : Mirrors c.debug c'.debug x x') :
    Mirrors c.debug c'.debug (guarded c expects x) (guarded c' expects x') := by
  refine hx.settle relates_pure fun f s _ => relates_ite (fun _ => ?_) fun _ => ?_
  · refine relates_after (.of_unreported ?_) (relates_pure _)
    simp [Unreported, Console.info, Event.opensReport_outLine]
  · exact relates_ite (fun _ => handle_mirrors c c' f) fun _ => relates_fail f

theorem carryOut_mirrors (x : Undertaking σ) :
    Mirrors c.debug c'.debug (x.carryOut u w c) (x.carryOut u w c') := by
  refine guarded_mirrors c c' x.expects ((mirrors_refl unreported_prepareTarget).bind ?_)
  intro t s prepared
  exact relates_conclude fun r =>
    executeSteps_mirrors (speaks_of_prepared prepared) u c c' r.1 r.2 x.printPlan

variable {u} in
theorem withPipelineFile_mirrors {spec : CommandSpec} {g : Given} {pointless : List String}
    {proceed proceed' : Option Path → Activity Event σ Int}
    (proceeds : ∀ path, Mirrors debug debug' (proceed path) (proceed' path)) :
    Mirrors debug debug' (withPipelineFile u spec g pointless proceed)
      (withPipelineFile u spec g pointless proceed') :=
  withPipelineFile_related (R := Mirrors debug debug') (fun path _ => proceeds path)
    (fun _ => relates_fail _) fun _ _ h => relates_after (.of_overt h h) (relates_pure _)

theorem run_mirrors (g : Given) : Mirrors c.debug c'.debug (run u w c g) (run u w c' g) := by
  rw [run_eq, run_eq]
  exact withPipelineFile_mirrors fun path => carryOut_mirrors u w c c' _

theorem plan_mirrors (g : Given) :
    Mirrors c.debug c'.debug (plan u c g : Activity Event σ Int) (plan u c' g) := by
  refine withPipelineFile_mirrors fun path => Relates.settle ?_ (fun r => ?_) fun f s _ => ?_
  · rw [stepsAndName_eq]
    exact relates_conclude fun r => relates_require fun p _ => relates_pure _
  · exact relates_after (.of_unreported ((Console.unreported_header _).append
      (unreported_planLines _))) (relates_pure _)
  · exact relates_ite (fun _ => handle_mirrors c c' f) fun _ => relates_fail f

theorem build_mirrors (g : Given) :
    Mirrors c.debug c'.debug (build u w c g) (build u w c' g) := by
  refine relates_require fun path _ => relates_require fun stage _ => ?_
  have speaks :=
    speaks_of_candid (Target.candid_host w u.environ [] u.superuser (some path.toString))
  obtain ⟨built, bspeaks⟩ := stage.run_paired (speaks.paired c c') (some path.toString)
  refine built.settle (fun _ => relates_after (.of_unreported ?_) (relates_pure _)) fun f s hf => ?_
  · simp [Unreported, Console.info, Event.opensReport_outLine]
  · refine relates_ite (fun provisioning => ?_) fun _ => relates_fail f
    exact relates_after (.failure c c' _ provisioning (bspeaks.of_error hf)) (relates_pure _)

theorem installToolchain_mirrors (g : Given) :
    Mirrors c.debug c'.debug (installToolchain u w c g) (installToolchain u w c' g) := by
  rw [installToolchain_eq, installToolchain_eq]
  exact carryOut_mirrors u w c c' _

theorem head?_text {usage : String} {lines : List String} (h : usage.toList.head? = some 'U') :
    (text (usage :: lines)).toList.head? = some 'U' := by
  obtain ⟨cs, hcs⟩ := List.head?_eq_some_iff.1 h
  simp [text, String.join_cons, hcs, Text.visible, Text.visibleFrom, Text.sequenceLength]

theorem not_opensReport_text {usage : String} {lines : List String}
    (h : usage.toList.head? = some 'U') : ¬ (Event.out (text (usage :: lines))).OpensReport := by
  have hhead : (text (usage :: lines)).toList.head? = some 'U' := head?_text h
  rintro ⟨rest, hrest⟩
  rw [Event.out.inj hrest] at hhead
  simp at hhead

theorem printText_mirrors {usage : String} {lines : List String}
    (h : usage.toList.head? = some 'U') :
    Mirrors debug debug' (printText (text (usage :: lines)) : Activity Event σ Int)
      (printText (text (usage :: lines))) := by
  refine relates_after (.of_unreported fun e he => ?_) (relates_pure _)
  rw [List.mem_singleton.1 he]
  exact not_opensReport_text h

theorem groupHelp_mirrors :
    Mirrors debug debug' (printText (groupHelp u.settings) : Activity Event σ Int)
      (printText (groupHelp u.settings)) :=
  printText_mirrors (by simp [groupUsage])

theorem usageError_mirrors (usage path : String) (e : UsageError) :
    Mirrors debug debug' (usageError usage path e : Activity Event σ Int)
      (usageError usage path e) :=
  relates_after (.of_overt rfl rfl) (relates_pure _)

theorem unknownCommand_mirrors (name : String) (arguments : List String) :
    Mirrors debug debug' (unknownCommand u name arguments : Activity Event σ Int)
      (unknownCommand u name arguments) := by
  unfold unknownCommand
  refine relates_ite (fun _ => ?_) fun _ => usageError_mirrors _ _ _
  cases parse [debugOption, helpOption] false (name :: arguments) with
  | error e => exact usageError_mirrors _ _ _
  | ok p => exact relates_ite (fun _ => groupHelp_mirrors u) fun _ => usageError_mirrors _ _ _

theorem runNamed_mirrors {spec : CommandSpec} {action action' : Given → Activity Event σ Int}
    (h : ∀ g, Mirrors debug debug' (action g) (action' g)) (arguments : List String) :
    Mirrors debug debug' (runNamed spec action arguments) (runNamed spec action' arguments) := by
  unfold runNamed
  cases readCommand spec.options arguments with
  | help => exact printText_mirrors (by simp [CommandSpec.usage])
  | refused e => exact usageError_mirrors _ _ _
  | accepted g => exact h g

theorem called_mirrors (name : String) (arguments : List String) :
    Mirrors c.debug c'.debug (called u w c name arguments) (called u w c' name arguments) := by
  unfold called command?
  by_cases hrun : name = "run"
  · rw [hrun]
    exact runNamed_mirrors (run_mirrors u w c c') arguments
  by_cases hplan : name = "plan"
  · rw [hplan]
    exact runNamed_mirrors (plan_mirrors u c c') arguments
  by_cases hbuild : name = "build"
  · rw [hbuild]
    exact runNamed_mirrors (build_mirrors u w c c') arguments
  by_cases hinstall : name = "install-toolchain"
  · rw [hinstall]
    exact runNamed_mirrors (installToolchain_mirrors u w c c') arguments
  · simp only [hrun, hplan, hbuild, hinstall, if_false]
    exact unknownCommand_mirrors u name arguments

end Commands

/-- The two argument lists differ only in that the one turns debugging on. -/
def Debugs (arguments arguments' : List String) : Prop :=
  ∃ p p' name rest, parse [debugOption, helpOption] false arguments = .ok p ∧
    parse [debugOption, helpOption] false arguments' = .ok p' ∧
    p.given.has helpOption.long = p'.given.has helpOption.long ∧
    p.given.on debugOption.long false = true ∧ p'.given.on debugOption.long false = false ∧
    p.rest = name :: rest ∧ p'.rest = name :: rest

theorem depart_mirrors (f : Fault) :
    Mirrors debug debug' (depart f : Activity Event σ Int) (depart f) := by
  cases f with
  | interrupted => exact relates_after (.of_overt rfl rfl) (relates_pure _)
  | exiting request =>
    exact relates_after (.of_overt (overt_parting request) (overt_parting request)) (relates_pure _)
  | _ => exact relates_fail _

theorem execute_mirrors {arguments arguments' : List String} (u : Surroundings) (w : World σ)
    (h : Debugs arguments arguments') :
    Mirrors true false (execute u w arguments) (execute u w arguments') := by
  obtain ⟨p, p', name, rest, parsed, parsed', help, on, off, hrest, hrest'⟩ := h
  have dispatched : Mirrors true false (dispatch u w arguments) (dispatch u w arguments') := by
    rw [dispatch_of_parsed u w parsed hrest, dispatch_of_parsed u w parsed' hrest', help, on, off]
    exact relates_ite (fun _ => groupHelp_mirrors u) fun _ =>
      called_mirrors u w { debug := true } { debug := false } name rest
  exact dispatched.settle relates_pure fun f s _ => depart_mirrors f

theorem reports_of_failsAt {u : Surroundings} {w : World σ} {arguments : List String} {c : Console}
    {s after : σ} {t : Target σ} {p : Pipeline} {i : Nat} {f : Fault}
    (executes : Executes u w arguments c s t p after)
    (fails : Pipeline.FailsAt u.settings c t p.steps after i f)
    (provisioning : f.isProvisioning = true) :
    ∃ step, p.steps[i]? = some step ∧
      (Passage.failure step.name f).shown c.debug <:+: (execute u w arguments s).trace := by
  obtain ⟨done, v, hsplit, hlength, hsteps, -, hfault⟩ := fails.split
  obtain ⟨commences, reached⟩ := executes
  rename_i x name
  obtain ⟨q, ended, trace, ending, htrace, -⟩ := Undertaking.course_of_reaches (c := c) reached
  have hstep : p.steps[i]? = some v.step := by
    have hvisited := congrArg (fun steps => steps[i]?) hsteps
    simpa [hsplit, ← hlength] using hvisited.symm
  have hclosing : v.closing c = (Passage.failure v.step.name f).shown c.debug := by
    obtain ⟨w', hw'⟩ := Pipeline.report_of_mem_visited (v := v) (by rw [hsplit]; simp)
    have speaks := (v.step.perform_speaks (speaks_of_prepared reached.prepared) u.settings
      c).of_error (hw' ▸ hfault)
    rw [Passage.shown_failure c _ (speaks provisioning)]
    simp [Visit.closing, hfault, provisioning]
  have hvisit : v.closing c <:+: trace := by
    rw [ending.trace_eq reached.fresh, hsplit, List.flatMap_append, List.flatMap_singleton,
      Visit.trace, ← List.append_assoc, ← List.append_assoc]
    exact (List.suffix_append _ _).isInfix
  have hbody : trace <:+: (x.body u w c s).trace := by
    rw [htrace, ← List.append_assoc, ← List.append_assoc]
    exact List.infix_append _ _ _
  refine ⟨v.step, hstep, ?_⟩
  rw [execute_of_commences commences, ← hclosing]
  exact (hvisit.trans hbody).trans (List.prefix_append _ _).isInfix

end Provisioning.CommandLine
