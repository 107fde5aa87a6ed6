import Provisioning.Pipeline
import Provisioning.Proofs.Activity
import Provisioning.Proofs.Decoding
import Provisioning.Proofs.Rebuilding

/-!
What the recipes write into the data of a step is what is read out of it when the step is run: the
substeps of a stage in their order, and the address, the arguments and the tool of an installer.
Making the step again of its own fields does not change what is read.
-/
namespace Provisioning

def substepTuples (S : List (String × String)) : List Value :=
  S.map fun s => .tuple [.text s.1, .text s.2]

theorem Value.allFrozen_substepTuples (S : List (String × String)) :
    AllFrozen (substepTuples S) := by
  rw [allFrozen_iff, substepTuples, List.forall_mem_map]
  intro s _
  exact ⟨trivial, trivial, trivial⟩

theorem Value.freeze_substepLists (S : List (String × String)) :
    freezeItems (S.map fun s => .list [.text s.1, .text s.2]) = .ok (substepTuples S) := by
  induction S with
  | nil => rfl
  | cons s S ih =>
    rw [List.map_cons, freezeItems, ih]
    rfl

theorem mapM_items_substepTuples (f : List Value → Value) (S : List (String × String)) :
    (substepTuples S).mapM (fun v => f <$> v.items) =
      .ok (S.map fun s => f [.text s.1, .text s.2]) := by
  apply Refusable.mapM_eq_ok.2
  rw [substepTuples, List.forall₂_map_left_iff, List.forall₂_map_right_iff]
  apply List.forall₂_same.2
  intro s _
  rfl

def Stage.plain (S : List (String × String)) (p : Privilege) : Stage :=
  ⟨substepTuples S, defaultEnvFile, p⟩

theorem Stage.make_substeps {S : List (String × String)} (nonempty : S ≠ []) (p : Privilege) :
    make (Recipe.substepValues S) defaultEnvFile p = .ok (plain S p) := by
  apply make_eq_ok.2
  refine ⟨substepTuples S, rfl, ?_, rfl⟩
  simpa [substepTuples] using nonempty

theorem Stage.ofConfig_substeps {S : List (String × String)} (nonempty : S ≠ []) (p : Privilege) :
    ofConfig [(.text "substeps", .tuple (substepTuples S))] p = .ok (plain S p) := by
  have hdata : Config.getD [(.text "substeps", .tuple (substepTuples S))] "substeps" .null =
      .tuple (substepTuples S) := rfl
  have htupled : tupled (.tuple (substepTuples S)) = .ok (.list (substepTuples S)) := by
    apply Refusable.bind_eq_ok.2
    exact ⟨substepTuples S, rfl, Refusable.bind_eq_ok.2
      ⟨substepTuples S, mapM_items_substepTuples Value.tuple S, rfl⟩⟩
  unfold ofConfig
  rw [hdata, htupled]
  exact make_substeps nonempty p

namespace Recipe

def stageStep (settings : Settings) (name : String) (path : Option String)
    (S : List (String × String)) : Step :=
  ⟨name, [], .unprivileged, some (firstGiven path settings.guestPath), "build-test",
    [(.text "substeps", .tuple (substepTuples S))]⟩

theorem buildTest_substeps (settings : Settings) (name : String) (path : Option String)
    {S : List (String × String)} (nonempty : S ≠ []) :
    buildTest settings name path (substepValues S) = .ok (stageStep settings name path S) := by
  have chosen : ((substepValues S).orElse (substepValues defaultSubsteps)).items =
      .ok (substepTuples S) := by
    have given : (substepValues S).truthy = true := by
      simpa [substepValues, Value.truthy] using nonempty
    rw [Value.orElse, if_pos given]
    rfl
  have frozen : (Value.list (S.map fun s => .list [.text s.1, .text s.2])).freeze =
      .ok (.tuple (substepTuples S)) := by
    rw [Value.freeze, Value.freeze_substepLists]
    rfl
  have entries : [(Value.text "substeps",
        Value.list (S.map fun s => .list [.text s.1, .text s.2]))].mapM Step.freezeEntry =
      .ok [(.text "substeps", .tuple (substepTuples S))] := by
    apply Refusable.mapM_eq_ok.2
    refine .cons ?_ .nil
    rw [Step.freezeEntry, frozen]
    rfl
  apply Refusable.bind_eq_ok.2
  refine ⟨_, chosen, Refusable.bind_eq_ok.2 ⟨_, mapM_items_substepTuples Value.list S, ?_⟩⟩
  exact Step.make_accepted rfl rfl entries (Value.sortEntries_singleton _)

theorem stageStep_settled (settings : Settings) (name : String) (path : Option String)
    (S : List (String × String)) : (stageStep settings name path S).Settled where
  frozen := by
    rw [stageStep, List.forall_mem_singleton]
    exact Value.allFrozen_substepTuples S
  ascending := by
    simp [stageStep]

theorem stageStep_perform (settings : Settings) (name : String) (path : Option String)
    {S : List (String × String)} (nonempty : S ≠ []) {σ : Type} (c : Console) (t : Target σ) :
    let s := stageStep settings name path S
    s.perform settings c t =
      (Stage.plain S s.privilege).run c t (firstDirectory s.cwd t.workdir) := by
  have config : (stageStep settings name path S).config =
      .ok [(.text "substeps", .tuple (substepTuples S))] := rfl
  have stage := Stage.ofConfig_substeps nonempty .unprivileged
  change (Activity.require (stageStep settings name path S).config >>= fun data =>
    Activity.require (Stage.ofConfig data .unprivileged) >>= fun stage =>
      stage.run c t (firstDirectory (stageStep settings name path S).cwd t.workdir)) = _
  rw [config, Activity.require_bind_of_ok rfl, Activity.require_bind_of_ok stage]
  rfl

def givenText : Option String → Value
  | none => .null
  | some s => .text s

theorem orElse_givenText (given : Option String) (fallback : String) :
    (givenText given).orElse (.text fallback) = .text (firstGiven given fallback) := by
  cases given with
  | none => rfl
  | some s =>
    by_cases empty : s = ""
    · rw [empty]
      rfl
    · simp [givenText, firstGiven, Value.orElse, Value.truthy, empty]

theorem orElse_firstGiven (given : Option String) (fallback : String) :
    (Value.text (firstGiven given fallback)).orElse (.text fallback) =
      .text (firstGiven given fallback) := by
  rw [← orElse_givenText]
  unfold Value.orElse
  by_cases truthy : (givenText given).truthy
  · simp [truthy]
  · simp [truthy]

def installerStep (settings : Settings) (name : String) (url : Option String)
    (args tool : String) (noop : Bool) : Step :=
  ⟨name, [], .unprivileged, none, "toolchain",
    [(.text "args", .text args), (.text "noop", .bool noop), (.text "tool", .text tool),
      (.text "url", .text (firstGiven url settings.installerUrl))]⟩

section Installers

variable (settings : Settings) (name : String) (url : Option String) (args tool : String)
  (noop : Bool)

theorem toolchain_texts :
    toolchain settings name ⟨givenText url, .text args, .text tool, .bool noop⟩ =
      .ok (installerStep settings name url args tool noop) := by
  unfold toolchain
  rw [orElse_givenText]
  exact Step.make_accepted rfl rfl rfl (Value.sortEntries_toolchain _ _ _ _)

theorem installerStep_settled : (installerStep settings name url args tool noop).Settled where
  frozen := by
    simp [installerStep, Value.Frozen]
  ascending := by
    have noop_args :=
      Value.entryBefore_of_gt (by decide : "args" < "noop") (.bool noop) (.text args)
    have tool_noop :=
      Value.entryBefore_of_gt (by decide : "noop" < "tool") (.text tool) (.bool noop)
    have url_tool := Value.entryBefore_of_gt (by decide : "tool" < "url")
      (.text (firstGiven url settings.installerUrl)) (.text tool)
    simp [installerStep, noop_args, tool_noop, url_tool]

theorem installerStep_ofConfig (p : Privilege) :
    Installer.ofConfig settings (installerStep settings name url args tool noop).data p =
      if noop then .noop
      else .script {
        url := .text (firstGiven url settings.installerUrl), args := .text args,
        tool := .text tool, privilege := p } := by
  cases noop with
  | true => rfl
  | false =>
    have hurl := orElse_firstGiven url settings.installerUrl
    change Installer.script {
      url := (Value.text (firstGiven url settings.installerUrl)).orElse
        (.text settings.installerUrl)
      args := .text args, tool := .text tool, privilege := p } = _
    rw [hurl]
    rfl

end Installers

/-- A stage that is described by substeps, and an installer that is described by texts, come out of
the data of their steps as they went in, however often the steps are made again: the stage has the
substeps in their order and runs as if it had been made of them, and the installer has the address,
or else the one of the settings, the arguments and the tool. All else is as it is by default. -/
theorem recipes_decoded (settings : Settings) (name : String) (n : Nat) :
    (∀ (path : Option String) (S : List (String × String)), S ≠ [] →
      ∃ s, buildTest settings name path (substepValues S) = .ok s ∧ s.rebuilt n = .ok s ∧
        ∃ data, s.config = .ok data ∧
          (∀ p, Stage.ofConfig data p = .ok (Stage.plain S p) ∧
            Stage.make (substepValues S) defaultEnvFile p = .ok (Stage.plain S p)) ∧
          ∀ (σ : Type) (c : Console) (t : Target σ),
            s.perform settings c t =
              (Stage.plain S s.privilege).run c t (firstDirectory s.cwd t.workdir)) ∧
    ∀ (url : Option String) (args tool : String) (noop : Bool),
      ∃ s, toolchain settings name ⟨givenText url, .text args, .text tool, .bool noop⟩ = .ok s ∧
        s.rebuilt n = .ok s ∧
        ∃ data, s.config = .ok data ∧ ∀ p, Installer.ofConfig settings data p =
          if noop then .noop
          else .script {
            url := .text (firstGiven url settings.installerUrl), args := .text args,
            tool := .text tool, privilege := p } := by
  constructor
  · intro path S nonempty
    have settled := stageStep_settled settings name path S
    refine ⟨_, buildTest_substeps settings name path nonempty, Step.rebuilt_of_settled settled n,
      _, rfl, ?_, ?_⟩
    · intro p
      exact ⟨Stage.ofConfig_substeps nonempty p, Stage.make_substeps nonempty p⟩
    · intro σ c t
      exact stageStep_perform settings name path nonempty c t
  · intro url args tool noop
    have settled := installerStep_settled settings name url args tool noop
    refine ⟨_, toolchain_texts settings name url args tool noop,
      Step.rebuilt_of_settled settled n, _, rfl, ?_⟩
    intro p
    exact installerStep_ofConfig settings name url args tool noop p

theorem recipes_decoded_twice :
    [("check", "")] ≠ [] ∧
      ∃ s, buildTest (.ofEnviron []) "test" none (substepValues [("check", "")]) = .ok s ∧
        s.rebuilt 2 = .ok s ∧
        ∃ data, s.config = .ok data ∧
          Stage.ofConfig data .elevated = .ok (Stage.plain [("check", "")] .elevated) := by
  have nonempty : [("check", "")] ≠ [] := List.cons_ne_nil _ _
  obtain ⟨s, made, rebuilt, data, config, stages, -⟩ :=
    (recipes_decoded (.ofEnviron []) "test" 2).1 none [("check", "")] nonempty
  exact ⟨nonempty, s, made, rebuilt, data, config, (stages .elevated).1⟩

end Recipe
end Provisioning
