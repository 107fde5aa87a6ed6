import Provisioning.Proofs.Overt

/-!
From the arguments to an undertaking. Arguments that call a command may still not be accepted by it,
or there may be no pipeline file to go on with; then nothing but text comes of the run. Else `run`
and `install-toolchain` have an undertaking, the only one that the arguments determine, and to
execute the command is to carry it out.
-/
namespace Provisioning.CommandLine

open Activity

variable {σ : Type}

structure Idles (codes : List Int) (r : Report Event σ Int) : Prop where
  written : Written r.trace
  ends : (∃ code ∈ codes, r.answer = .ok code) ∨ ∃ cause, r.answer = .error (.refused cause)

section Idles

variable {codes : List Int} {r : Report Event σ Int}

theorem idles_recorded {entries : List Event} {code : Int} (written : Written entries)
    (mem : code ∈ codes) (s : σ) :
    Idles codes ((record entries >>= fun _ => pure code : Activity Event σ Int) s) := by
  rw [record_bind_apply, pure_apply, List.append_nil]
  exact ⟨written, .inl ⟨code, mem, rfl⟩⟩

theorem idles_usageError (usage path : String) (e : UsageError) (mem : 2 ∈ codes) (s : σ) :
    Idles codes (usageError usage path e s) :=
  idles_recorded (by simp [Written, Event.isText]) mem s

theorem Idles.mem_of_ok {code : Int} (h : Idles codes r) (answer : r.answer = .ok code) :
    code ∈ codes := by
  rcases h.ends with ⟨code', mem, answer'⟩ | ⟨cause, refused⟩
  · obtain rfl := Except.ok.inj (answer'.symm.trans answer)
    exact mem
  · cases refused.symm.trans answer

theorem Idles.mono {codes' : List Int} (h : Idles codes r) (sub : codes ⊆ codes') :
    Idles codes' r where
  written := h.written
  ends := h.ends.imp_left fun ⟨code, mem, answer⟩ => ⟨code, sub mem, answer⟩

theorem Idles.exception (h : Idles codes r) {f : Fault} (failed : r.answer = .error f) :
    f.isException = true := by
  rcases h.ends with ⟨code, -, answer⟩ | ⟨cause, refused⟩
  · cases answer.symm.trans failed
  · obtain rfl := Except.error.inj (refused.symm.trans failed)
    rfl

end Idles

section Execute

variable {u : Surroundings} {w : World σ} {arguments : List String} {s : σ}

theorem execute_of_exception
    (h : ∀ f, (dispatch u w arguments s).answer = .error f → f.isException = true) :
    execute u w arguments s = dispatch u w arguments s := by
  rw [execute_apply]
  generalize dispatch u w arguments s = r at h
  obtain ⟨trace, answer, after⟩ := r
  cases answer with
  | ok code => simp [farewell, concluded]
  | error f => simp [farewell_of_exception (h f rfl), concluded_of_exception (h f rfl)]

theorem execute_of_ok {code : Int} (h : (dispatch u w arguments s).answer = .ok code) :
    execute u w arguments s = dispatch u w arguments s := by
  refine execute_of_exception fun f failed => ?_
  cases h.symm.trans failed

theorem idles_execute {codes : List Int} (h : Idles codes (dispatch u w arguments s)) :
    Idles codes (execute u w arguments s) := by
  rw [execute_of_exception fun _ => h.exception]
  exact h

end Execute

/-- The arguments call a command by its name, whether or not it accepts those behind it. -/
def Calls (name : String) (arguments : List String) : Prop :=
  ∃ p rest, parse [debugOption, helpOption] false arguments = .ok p ∧ p.rest = name :: rest

theorem calls_of_invokes {specs : List OptionSpec} {name : String} {arguments : List String}
    {c : Console} {g : Given} (h : Invokes specs name arguments c g) : Calls name arguments := by
  obtain ⟨p, rest, hp, -, hrest, -⟩ := h
  exact ⟨p, rest, hp, hrest⟩

theorem invokes_or_idles {u : Surroundings} {w : World σ} {name : String} (spec : CommandSpec)
    {action : Console → Given → Activity Event σ Int} {arguments : List String}
    (known : ∀ c, command? u w c name = some (spec, action c)) (calls : Calls name arguments)
    (s : σ) :
    (∃ c g, Invokes spec.options name arguments c g) ∨
      Idles [0, 2] (execute u w arguments s) := by
  obtain ⟨p, rest, hp, hrest⟩ := calls
  have hdispatch := dispatch_of_parsed u w hp hrest
  cases help : p.given.has helpOption.long with
  | true =>
    refine .inr (idles_execute ?_)
    rw [hdispatch, help, if_pos rfl]
    exact idles_recorded (by simp [Written, Event.isText]) (by simp) s
  | false =>
    rw [help, if_neg Bool.false_ne_true, called_of_known (known _)] at hdispatch
    cases hread : readCommand spec.options rest with
    | accepted g => exact .inl ⟨_, g, p, rest, hp, help, hrest, rfl, hread⟩
    | help =>
      refine .inr (idles_execute ?_)
      simp only [hdispatch, runNamed, hread]
      exact idles_recorded (by simp [Written, Event.isText]) (by simp) s
    | refused e =>
      refine .inr (idles_execute ?_)
      simp only [hdispatch, runNamed, hread]
      exact idles_usageError _ _ e (by simp) s

def FileGives (f : PipelineFile) (v : Option Supply) : Prop :=
  ∃ globals, f.run = .ok globals ∧ PipelineFile.supplied globals = .ok v

theorem load_of_gives {f : PipelineFile} {v : Option Supply} (gives : FileGives f v) :
    f.load = (PipelineFile.stepsOf v).mapError .refused := by
  obtain ⟨globals, hrun, hsupplied⟩ := gives
  rw [PipelineFile.load, hrun]
  change (PipelineFile.supplied globals >>= fun v => _) = _
  rw [hsupplied]
  change Except.bind (.ok v) _ = _
  cases accepted : PipelineFile.stepsOf v with
  | ok steps => simp only [Except.bind, accepted, Except.mapError]
  | error cause => simp only [Except.bind, accepted, Except.mapError]

/-- The file is the one to go on with, or none is; no option is given that the file makes
pointless. -/
structure Selects (u : Surroundings) (g : Given) (pointless : List String) (path : Option Path) :
    Prop where
  found : Finds u g path
  apt : path = none ∨ builtinOnlyGiven g pointless = []

section Selects

variable {u : Surroundings} {spec : CommandSpec} {g : Given} {pointless : List String}
  {proceed proceed' : Option Path → Activity Event σ Int} {path : Option Path}

theorem withPipelineFile_of_selects (h : Selects u g pointless path) :
    withPipelineFile u spec g pointless proceed = proceed path := by
  unfold withPipelineFile
  rw [require_bind_of_ok h.found]
  cases path with
  | none => rfl
  | some p =>
    rcases h.apt with hnone | hgiven
    · cases hnone
    · dsimp only
      rw [hgiven]

/-- Two commands that are related wherever they go on are related altogether: one that does not go
on is refused, or says why on the second output stream. -/
theorem withPipelineFile_related {R : Activity Event σ Int → Activity Event σ Int → Prop}
    (proceeds : ∀ path, Selects u g pointless path → R (proceed path) (proceed' path))
    (refused : ∀ cause, R (fail (.refused cause)) (fail (.refused cause)))
    (told : ∀ (entries : List Event) (code : Int), overt entries = [] →
      R (record entries >>= fun _ => pure code) (record entries >>= fun _ => pure code)) :
    R (withPipelineFile u spec g pointless proceed)
      (withPipelineFile u spec g pointless proceed') := by
  unfold withPipelineFile
  cases found : Discovery.find u.files u.place (g.text? "--pipeline") with
  | error cause => exact refused cause
  | ok result =>
    rw [require_bind_of_ok rfl, require_bind_of_ok rfl]
    cases result with
    | builtin => exact proceeds none ⟨found, .inl rfl⟩
    | missing asked => exact told _ 1 (Console.overt_error _ _ _ _)
    | ambiguous paths => exact told _ 1 (Console.overt_error _ _ _ _)
    | file p =>
      dsimp only
      cases hgiven : builtinOnlyGiven g pointless with
      | nil => exact proceeds (some p) ⟨found, .inr hgiven⟩
      | cons => exact told _ 2 rfl

theorem selects_or_idles (s : σ) :
    (∃ path, Selects u g pointless path) ∨
      Idles [1, 2] (withPipelineFile u spec g pointless proceed s) := by
  unfold withPipelineFile
  cases found : Discovery.find u.files u.place (g.text? "--pipeline") with
  | error cause =>
    rw [require_bind_of_error rfl]
    exact .inr ⟨.nil, .inr ⟨cause, rfl⟩⟩
  | ok result =>
    rw [require_bind_of_ok rfl]
    cases result with
    | builtin => exact .inl ⟨none, found, .inl rfl⟩
    | missing asked => exact .inr (idles_recorded (Console.written_error _ _ _ _) (by simp) s)
    | ambiguous paths => exact .inr (idles_recorded (Console.written_error _ _ _ _) (by simp) s)
    | file p =>
      dsimp only
      cases hgiven : builtinOnlyGiven g pointless with
      | nil => exact .inl ⟨some p, found, .inr hgiven⟩
      | cons => exact .inr (idles_usageError _ _ _ (by simp) s)

end Selects

def supplied (u : Surroundings) (path : Option Path) (o : Recipe.PipelineOptions) :
    Except Fault (List Step × String) :=
  match path with
  | some p => (PipelineFile.loadPath u.files u.place p).map fun steps => (steps, p.name)
  | none => match Recipe.builtin u.settings o with
    | .ok steps => .ok (steps, "(built-in)")
    | .error cause => .error (.refused cause)

theorem stepsAndName_eq (u : Surroundings) (path : Option Path) (o : Recipe.PipelineOptions) :
    (stepsAndName u path o : Activity Event σ _) = conclude (supplied u path o) := by
  cases path with
  | some p =>
    unfold stepsAndName supplied
    dsimp only
    cases PipelineFile.loadPath u.files u.place p <;> rfl
  | none =>
    unfold stepsAndName supplied
    dsimp only
    cases Recipe.builtin u.settings o <;> rfl

def installSteps (u : Surroundings) (g : Given) (workdir : Option String) :
    Except Refusal (List Step) := do
  let url := (g.text? "--installer-url").getD u.settings.installerUrl
  let install ← Recipe.toolchain u.settings Recipe.toolchainName { url := .text url }
  if g.on "--and-build" false then
    return [install, ← Recipe.buildTest u.settings Recipe.buildTestName workdir .null]
  else return [install]

namespace Undertaking

def ofRun (u : Surroundings) (g : Given) (path : Option Path) : Undertaking σ where
  choice := .ofGiven u.settings g
  supply t := CommandLine.supplied u path (builtinOptions u g t)
  printPlan := g.on "--print-plan" true
  expects f := f.isProvisioning || isLoadFault f

def ofInstall (u : Surroundings) (g : Given) : Undertaking σ where
  choice := .ofGiven u.settings g
  supply t := match installSteps u g t.workdir with
    | .ok steps => .ok (steps, "install-toolchain")
    | .error cause => .error (.refused cause)
  printPlan := false
  expects := Fault.isProvisioning

end Undertaking

def builtinOnly : List String := ["--installer-url", "--skip-toolchain", "--install-example"]

theorem run_eq (u : Surroundings) (w : World σ) (c : Console) (g : Given) :
    run u w c g = withPipelineFile u (runCommand u.settings) g builtinOnly fun path =>
      (Undertaking.ofRun u g path).carryOut u w c := by
  unfold run
  congr 1
  funext path
  unfold Undertaking.carryOut Undertaking.body Undertaking.performance
  simp only [stepsAndName_eq]
  rfl

theorem installToolchain_eq (u : Surroundings) (w : World σ) (c : Console) (g : Given) :
    installToolchain u w c g = (Undertaking.ofInstall u g).carryOut u w c := by
  unfold installToolchain Undertaking.carryOut
  congr 1
  unfold Undertaking.body
  congr 1
  funext t
  unfold Undertaking.performance Undertaking.ofInstall installSteps
  dsimp only
  cases Recipe.toolchain u.settings Recipe.toolchainName
      { url := .text ((g.text? "--installer-url").getD u.settings.installerUrl) } with
  | error cause => rfl
  | ok install =>
    cases g.on "--and-build" false with
    | false => rfl
    | true =>
      cases Recipe.buildTest u.settings Recipe.buildTestName t.workdir .null <;> rfl

/-- The arguments call `run` or `install-toolchain`, which accepts them. -/
def Provisions (u : Surroundings) (arguments : List String) (c : Console) : Prop :=
  (∃ g, Invokes (runCommand u.settings).options "run" arguments c g) ∨
    ∃ g, Invokes (installCommand u.settings).options "install-toolchain" arguments c g

inductive Commences (u : Surroundings) (arguments : List String) (c : Console) :
    Undertaking σ → Prop
  | run {g : Given} {path : Option Path}
      (invokes : Invokes (runCommand u.settings).options "run" arguments c g)
      (selects : Selects u g builtinOnly path) : Commences u arguments c (.ofRun u g path)
  | install {g : Given}
      (invokes : Invokes (installCommand u.settings).options "install-toolchain" arguments c g) :
      Commences u arguments c (.ofInstall u g)

def epilogue (c : Console) (expects : Fault → Bool) (ended : Except Fault Int) : List Event :=
  remarks c expects ended ++ farewell (resolved expects ended)

theorem written_epilogue (c : Console) (expects : Fault → Bool) (ended : Except Fault Int) :
    Written (epilogue c expects ended) :=
  (written_remarks c expects ended).append (written_farewell _)

section Commences

variable {u : Surroundings} {w : World σ} {arguments : List String} {c : Console}
  {x : Undertaking σ}

theorem dispatch_of_commences (h : Commences u arguments c x) :
    dispatch u w arguments = x.carryOut u w c := by
  cases h with
  | run invokes selects =>
    rw [dispatch_of_invokes rfl invokes, run_eq, withPipelineFile_of_selects selects]
  | install invokes => rw [dispatch_of_invokes rfl invokes, installToolchain_eq]

theorem execute_of_commences (h : Commences u arguments c x) (s : σ) :
    execute u w arguments s =
      ⟨(x.body u w c s).trace ++ epilogue c x.expects (x.body u w c s).answer,
        concluded (resolved x.expects (x.body u w c s).answer), (x.body u w c s).after⟩ := by
  rw [execute_apply, dispatch_of_commences h, Undertaking.carryOut, guarded_apply, epilogue,
    List.append_assoc]

theorem Commences.unexpected (h : Commences u arguments c x) (request : ExitRequest) :
    x.expects (.exiting request) = false := by
  cases h <;> rfl

theorem selects_or_idles_of_invokes {g : Given}
    (invokes : Invokes (runCommand u.settings).options "run" arguments c g) (w : World σ) (s : σ) :
    (∃ path, Selects u g builtinOnly path) ∨ Idles [1, 2] (execute u w arguments s) := by
  have hdispatch : dispatch u w arguments = run u w c g := dispatch_of_invokes rfl invokes
  rw [run_eq] at hdispatch
  rcases selects_or_idles s with selects | idles
  · exact .inl selects
  · refine .inr (idles_execute ?_)
    rw [hdispatch]
    exact idles

theorem commences_or_idles (h : Provisions u arguments c) (w : World σ) (s : σ) :
    (∃ x : Undertaking σ, Commences u arguments c x) ∨
      Idles [1, 2] (execute u w arguments s) := by
  rcases h with ⟨g, invokes⟩ | ⟨g, invokes⟩
  · rcases selects_or_idles_of_invokes invokes w s with ⟨path, selects⟩ | idles
    · exact .inl ⟨_, .run invokes selects⟩
    · exact .inr idles
  · exact .inl ⟨_, .install invokes⟩

theorem commences_or_idles_of_calls
    (calls : Calls "run" arguments ∨ Calls "install-toolchain" arguments) (w : World σ) (s : σ) :
    (∃ (c : Console) (x : Undertaking σ), Commences u arguments c x) ∨
      Idles [0, 1, 2] (execute u w arguments s) := by
  have of_provisions {c : Console} (provisions : Provisions u arguments c) :
      (∃ (c : Console) (x : Undertaking σ), Commences u arguments c x) ∨
        Idles [0, 1, 2] (execute u w arguments s) := by
    rcases commences_or_idles provisions w s with ⟨x, commences⟩ | idles
    · exact .inl ⟨c, x, commences⟩
    · exact .inr (idles.mono (by simp))
  rcases calls with calls | calls
  · rcases invokes_or_idles (u := u) (w := w) (runCommand u.settings)
        (fun c => rfl) calls s with ⟨c, g, invokes⟩ | idles
    · exact of_provisions (.inl ⟨g, invokes⟩)
    · exact .inr (idles.mono (by simp))
  · rcases invokes_or_idles (u := u) (w := w) (installCommand u.settings)
        (fun c => rfl) calls s with ⟨c, g, invokes⟩ | idles
    · exact of_provisions (.inr ⟨g, invokes⟩)
    · exact .inr (idles.mono (by simp))

theorem Commences.provisions (h : Commences u arguments c x) : Provisions u arguments c := by
  cases h with
  | run invokes => exact .inl ⟨_, invokes⟩
  | install invokes => exact .inr ⟨_, invokes⟩

theorem invokes_name_unique {specs specs' : List OptionSpec} {name name' : String} {c' : Console}
    {g g' : Given} (h : Invokes specs name arguments c g)
    (h' : Invokes specs' name' arguments c' g') : name = name' := by
  obtain ⟨p, rest, hp, -, hrest, -⟩ := h
  obtain ⟨p', rest', hp', -, hrest', -⟩ := h'
  obtain rfl := Except.ok.inj (hp.symm.trans hp')
  exact (List.cons.inj (hrest.symm.trans hrest')).1

theorem invokes_given_unique {specs : List OptionSpec} {name : String} {c' : Console}
    {g g' : Given} (h : Invokes specs name arguments c g)
    (h' : Invokes specs name arguments c' g') : g = g' := by
  obtain ⟨p, rest, hp, -, hrest, -, accepted⟩ := h
  obtain ⟨p', rest', hp', -, hrest', -, accepted'⟩ := h'
  obtain rfl := Except.ok.inj (hp.symm.trans hp')
  obtain rfl := (List.cons.inj (hrest.symm.trans hrest')).2
  exact Reading.accepted.inj (accepted.symm.trans accepted')

theorem finds_unique {g : Given} {path path' : Option Path} (h : Finds u g path)
    (h' : Finds u g path') : path = path' := by
  have hfound := Except.ok.inj (h.symm.trans h')
  cases path <;> cases path' <;> simp_all

theorem Commences.unique {y : Undertaking σ} (h : Commences u arguments c x)
    (h' : Commences u arguments c y) : x = y := by
  cases h with
  | run invokes selects =>
    cases h' with
    | run invokes' selects' =>
      obtain rfl := invokes_given_unique invokes invokes'
      obtain rfl := finds_unique selects.found selects'.found
      rfl
    | install invokes' => exact absurd (invokes_name_unique invokes invokes') (by decide)
  | install invokes =>
    cases h' with
    | run invokes' => exact absurd (invokes_name_unique invokes invokes') (by decide)
    | install invokes' =>
      obtain rfl := invokes_given_unique invokes invokes'
      rfl

end Commences

end Provisioning.CommandLine
