import Provisioning.Recipe
import Provisioning.Proofs.Validation

/-!
The built-in pipeline. Each of its recipes is accepted, whatever the settings are and wherever the
project is, and its steps make a pipeline. The name, the privilege and the kind of each step are
always the same; only the installation of the example is optional.
-/
namespace Provisioning

namespace Sorting

variable {α ε : Type} {before : α → α → Except ε Bool}

theorem leastRun_of_lt {n : Nat} (h : n < 64) : leastRun n = n := by
  unfold leastRun leastRun.go
  simp [h]

theorem length_of_firstRun {a : α} {xs run rest : List α}
    (h : firstRun before a xs = .ok (run, rest)) : run.length + rest.length = xs.length + 1 := by
  cases xs with
  | nil =>
    obtain ⟨rfl, rfl⟩ := Prod.mk.inj (Except.ok.inj h)
    rfl
  | cons b xs =>
    rw [firstRun] at h
    cases hb : before b a with
    | error e => simp [hb] at h
    | ok descending =>
      cases hr : continueRun before descending b xs with
      | error e => simp [hb, hr] at h
      | ok r =>
        have hlength := congrArg List.length (append_of_continueRun hr)
        simp only [hb, hr, Except.ok.injEq, Prod.mk.injEq] at h
        obtain ⟨rfl, rfl⟩ := h
        have hrun : (if descending then (a :: b :: r.1).reverse else a :: b :: r.1).length =
            r.1.length + 2 := by
          cases descending <;> simp
        simp only [List.length_append] at hlength
        rw [hrun, List.length_cons]
        omega

theorem sort_of_short {a : α} {xs run rest filled : List α} (short : xs.length + 1 < 64)
    (first : firstRun before a xs = .ok (run, rest))
    (placed : rest.foldlM (fun sorted x => place before x sorted) run = .ok filled) :
    sort before (a :: xs) = .ok filled := by
  have hlength := length_of_firstRun first
  have hleast : leastRun (a :: xs).length = xs.length + 1 := leastRun_of_lt short
  have htake : rest.take (leastRun (a :: xs).length - run.length) = rest := by
    rw [hleast]
    exact List.take_of_length_le (by omega)
  have hdrop : rest.drop (leastRun (a :: xs).length - run.length) = [] := by
    rw [hleast]
    exact List.drop_eq_nil_of_le (by omega)
  unfold sort
  rw [cut]
  split
  · rename_i e failed
    cases first.symm.trans failed
  · rename_i run' rest' first'
    obtain ⟨rfl, rfl⟩ := Prod.mk.inj (Except.ok.inj (first.symm.trans first'))
    simp only [htake, hdrop, placed]
    simp [Pending.add, Pending.collapse, cut, bind, Except.bind]

end Sorting

namespace Value

theorem entryBefore_of_lt {k k' : String} (h : k < k') (v v' : Value) :
    entryBefore (.text k, v) (.text k', v') = .ok true := by
  have hne : k ≠ k' := fun he => String.lt_irrefl k' (he ▸ h)
  simp [entryBefore, beforeItems, same, before, hne, h]

theorem entryBefore_of_gt {k k' : String} (h : k' < k) (v v' : Value) :
    entryBefore (.text k, v) (.text k', v') = .ok false := by
  have hne : k ≠ k' := fun he => String.lt_irrefl k' (he ▸ h)
  have hnot : ¬ k < k' := String.lt_asymm h
  simp [entryBefore, beforeItems, same, before, hne, hnot]

theorem sortEntries_nil : sortEntries [] = .ok [] := by
  simp [sortEntries, Sorting.sort, Sorting.cut, Sorting.Pending.collapse, bind, Except.bind]

theorem sortEntries_singleton (e : Value × Value) : sortEntries [e] = .ok [e] :=
  Sorting.sort_of_short (by simp) rfl rfl

open Sorting in
theorem sortEntries_toolchain (url args tool noop : Value) :
    sortEntries [(.text "url", url), (.text "args", args), (.text "tool", tool),
        (.text "noop", noop)] =
      .ok [(.text "args", args), (.text "noop", noop), (.text "tool", tool),
        (.text "url", url)] := by
  have args_url := entryBefore_of_lt (by decide : "args" < "url") args url
  have tool_args := entryBefore_of_gt (by decide : "args" < "tool") tool args
  have tool_url := entryBefore_of_lt (by decide : "tool" < "url") tool url
  have noop_tool := entryBefore_of_lt (by decide : "noop" < "tool") noop tool
  have noop_args := entryBefore_of_gt (by decide : "args" < "noop") noop args
  have first : firstRun entryBefore (.text "url", url)
      [(.text "args", args), (.text "tool", tool), (.text "noop", noop)] =
      .ok ([(.text "args", args), (.text "url", url)],
        [(.text "tool", tool), (.text "noop", noop)]) := by
    simp [firstRun, continueRun, args_url, tool_args]
  have tool_placed : place entryBefore (.text "tool", tool)
      [(.text "args", args), (.text "url", url)] =
      .ok [(.text "args", args), (.text "tool", tool), (.text "url", url)] := by
    simp [place, halving, Side.middle, tool_args, tool_url]
  have noop_placed : place entryBefore (.text "noop", noop)
      [(.text "args", args), (.text "tool", tool), (.text "url", url)] =
      .ok [(.text "args", args), (.text "noop", noop), (.text "tool", tool),
        (.text "url", url)] := by
    simp [place, halving, Side.middle, noop_args, noop_tool]
  refine sort_of_short (by simp) first ?_
  simp [tool_placed, noop_placed, bind, Except.bind]
  rfl

end Value
def Step.outline (s : Step) : String × Privilege × String := (s.name, s.privilege, s.kind)

theorem Step.make_accepted {name kind : String} {run data : Value} {p : Privilege}
    {cwd : Option String} {items : List Value} {entries frozen sorted : Config}
    (hrun : run.items = .ok items) (hentries : entriesOf data = .ok entries)
    (hfrozen : entries.mapM freezeEntry = .ok frozen)
    (hsorted : Value.sortEntries frozen = .ok sorted) :
    make name run p cwd kind data = .ok ⟨name, items, p, cwd, kind, sorted⟩ :=
  Refusable.bind_eq_ok.2 ⟨items, hrun, Refusable.bind_eq_ok.2 ⟨entries, hentries,
    Refusable.bind_eq_ok.2 ⟨frozen, hfrozen, Refusable.bind_eq_ok.2 ⟨sorted, hsorted, rfl⟩⟩⟩⟩

namespace Recipe

theorem shell_accepted {commands : List Value} (nonempty : commands ≠ []) (name : String)
    (cwd : Option String) (p : Privilege) :
    shell name commands cwd p = .ok ⟨name, commands, p, cwd, "sh", []⟩ := by
  have hnonempty : commands.isEmpty = false := by simpa using nonempty
  unfold shell
  rw [hnonempty]
  exact Step.make_accepted rfl rfl rfl Value.sortEntries_nil

theorem textsFrom_text (index : Nat) (words : List String) :
    Value.textsFrom index (words.map .text) = .ok words := by
  induction words generalizing index with
  | nil => rfl
  | cons word words ih =>
    rw [List.map_cons, Value.textsFrom, ih]
    rfl

def packagesStep (name : String) (words : List String) : Step where
  name := name
  run := [.text "apt-get update -qq",
    .text ("DEBIAN_FRONTEND=noninteractive apt-get install -y -qq " ++
      String.intercalate " " words)]
  privilege := .elevated
  cwd := none
  kind := "sh"
  data := []

theorem packages_texts (name : String) (words : List String) :
    packages name (.list (words.map .text)) = .ok (packagesStep name words) := by
  have listed : (Value.list (words.map .text)).spaced = .ok (String.intercalate " " words) := by
    have hitems : (Value.list (words.map .text)).items = .ok (words.map .text) := rfl
    unfold Value.spaced
    rw [hitems]
    simp only [textsFrom_text]
    rfl
  exact Refusable.bind_eq_ok.2 ⟨_, listed, shell_accepted (List.cons_ne_nil _ _) _ _ _⟩

theorem packages_accepted (name : String) (words : List String) :
    ∃ s, packages name (.list (words.map .text)) = .ok s ∧ s.outline = (name, .elevated, "sh") ∧
      Pipeline.checkStep [] s = .ok () :=
  ⟨_, packages_texts name words, rfl, rfl⟩

theorem toolchain_accepted {settings : Settings} {o : ToolchainOptions} {url : String}
    {noop : Bool} (name : String) (hurl : o.url.orElse (.text settings.installerUrl) = .text url)
    (hargs : o.args = .text "-y") (htool : o.tool = .text "cargo") (hnoop : o.noop = .bool noop) :
    ∃ s, toolchain settings name o = .ok s ∧ s.outline = (name, .unprivileged, "toolchain") ∧
      Pipeline.checkStep [] s = .ok () := by
  unfold toolchain
  rw [hurl, hargs, htool, hnoop]
  refine ⟨_, Step.make_accepted rfl rfl rfl (Value.sortEntries_toolchain _ _ _ _), rfl, rfl⟩

theorem buildTest_accepted (settings : Settings) (name : String) (project : Option String) :
    ∃ s, buildTest settings name project .null = .ok s ∧
      s.outline = (name, .unprivileged, "build-test") ∧ Pipeline.checkStep [] s = .ok () := by
  have chosen : (Value.null.orElse (substepValues defaultSubsteps)).items =
      .ok (defaultSubsteps.map fun s => .tuple [.text s.1, .text s.2]) := rfl
  have listed : (defaultSubsteps.map fun s => Value.tuple [.text s.1, .text s.2]).mapM
      (fun s => Value.list <$> s.items) =
      .ok (defaultSubsteps.map fun s => .list [.text s.1, .text s.2]) := rfl
  obtain ⟨s, made, accepted⟩ : ∃ s, Step.make name (.tuple []) .unprivileged
      (some (firstGiven project settings.guestPath)) StepKind.buildTest.word
      (.record [("substeps", .list (defaultSubsteps.map fun s => .list [.text s.1, .text s.2]))]) =
        .ok s ∧
      s.outline = (name, .unprivileged, "build-test") ∧ Pipeline.checkStep [] s = .ok () :=
    ⟨_, Step.make_accepted rfl rfl rfl (Value.sortEntries_singleton _), rfl, rfl⟩
  exact ⟨s, Refusable.bind_eq_ok.2 ⟨_, chosen, Refusable.bind_eq_ok.2 ⟨_, listed, made⟩⟩, accepted⟩

theorem installExample_accepted (settings : Settings) (name : String) (project : Option String) :
    ∃ s, installExample settings name project = .ok s ∧ s.outline = (name, .elevated, "sh") ∧
      Pipeline.checkStep [] s = .ok () :=
  ⟨_, shell_accepted (List.cons_ne_nil _ _) _ _ _, rfl, rfl⟩

def builtinOutline (withExample : Bool) : List (String × Privilege × String) := [
  ("system-packages", .elevated, "sh"), ("install-toolchain", .unprivileged, "toolchain"),
  ("build-and-test", .unprivileged, "build-test")] ++
    if withExample then [("install-example", .elevated, "sh")] else []

structure PipelineOptions.Plain (o : PipelineOptions) : Prop where
  packages : o.packages = .null
  url : o.installerUrl = .null ∨ ∃ url, o.installerUrl = .text url
  skip : ∃ skip, o.skipToolchain = .bool skip

theorem orElse_url {v : Value} (h : v = .null ∨ ∃ url, v = .text url) (fallback : String) :
    ∃ url, v.orElse (.text fallback) = .text url := by
  rcases h with rfl | ⟨url, rfl⟩
  · exact ⟨fallback, rfl⟩
  · by_cases given : url = ""
    · exact ⟨fallback, by simp [Value.orElse, Value.truthy, given]⟩
    · exact ⟨url, by simp [Value.orElse, Value.truthy, given]⟩

theorem make_of_builtinOutline {steps : List Step} {withExample : Bool}
    (outline : steps.map Step.outline = builtinOutline withExample)
    (checked : ∀ s ∈ steps, Pipeline.checkStep [] s = .ok ()) :
    Pipeline.make (steps.map .step) = .ok { steps } := by
  have names : steps.map Step.name = (builtinOutline withExample).map Prod.fst := by
    rw [← outline, List.map_map]
    rfl
  have nonempty : steps ≠ [] := by
    rintro rfl
    cases outline
  refine Pipeline.make_of_distinct nonempty checked ?_
  rw [names]
  cases withExample <;> decide

/-- The built-in pipeline is always accepted, and its outline does not depend on the settings, the
project or the installer. -/
theorem builtin_accepted (settings : Settings) {o : PipelineOptions} (plain : o.Plain) :
    ∃ steps, builtin settings o = .ok steps ∧
      steps.map Step.outline = builtinOutline o.withExample.truthy ∧
      Pipeline.make (steps.map .step) = .ok { steps } := by
  obtain ⟨listed, hurl, skip, hskip⟩ := plain
  obtain ⟨url, hurl⟩ := orElse_url hurl settings.installerUrl
  obtain ⟨s₁, made₁, outline₁, checked₁⟩ := packages_accepted "system-packages" settings.packages
  obtain ⟨s₂, made₂, outline₂, checked₂⟩ := toolchain_accepted
    (o := { url := o.installerUrl, noop := o.skipToolchain }) toolchainName hurl rfl rfl hskip
  obtain ⟨s₃, made₃, outline₃, checked₃⟩ := buildTest_accepted settings buildTestName
    (some (firstGiven o.projectPath settings.guestPath))
  obtain ⟨s₄, made₄, outline₄, checked₄⟩ := installExample_accepted settings installExampleName
    (some (firstGiven o.projectPath settings.guestPath))
  have wanted : o.packages.orElse (.list (settings.packages.map .text)) =
      .list (settings.packages.map .text) := by
    rw [listed]
    rfl
  unfold builtin
  rw [wanted]
  dsimp only
  rw [made₁, made₂, made₃]
  cases o.withExample.truthy with
  | false =>
    have outline : [s₁, s₂, s₃].map Step.outline = builtinOutline false := by
      simp [outline₁, outline₂, outline₃, builtinOutline, toolchainName, buildTestName]
    exact ⟨_, rfl, outline, make_of_builtinOutline outline (by simp [*])⟩
  | true =>
    have outline : [s₁, s₂, s₃, s₄].map Step.outline = builtinOutline true := by
      simp [outline₁, outline₂, outline₃, outline₄, builtinOutline, toolchainName, buildTestName,
        installExampleName]
    refine ⟨[s₁, s₂, s₃, s₄], ?_, outline, make_of_builtinOutline outline (by simp [*])⟩
    simp only [if_true]
    rw [made₄]
    rfl

end Recipe
end Provisioning
