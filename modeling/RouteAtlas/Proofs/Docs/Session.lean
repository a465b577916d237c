import Mathlib.Data.List.DropRight
import RouteAtlas.Docs.Session
import RouteAtlas.Proofs.Docs.Installing

/-!
# What a session leaves behind

The state of an installer is told by the steps since its last reset: it holds the installation of
the first install among them, made of the registry as it stood before that step.  The layers of a
registry are told by the whole history, since a reset takes no layer away: every install that was
the first of its installer left the layers of the documentation.
-/

namespace RouteAtlas

variable {I R : Type} [DecidableEq I]

namespace Step

def installs (name : I) : Step I R → Bool
  | .install installer _ _ _ => installer = name
  | _ => false

def resets (name : I) : Step I R → Bool
  | .reset installer => installer = name
  | _ => false

end Step

namespace Installer

variable {installer : Installer}

/-- An installer that holds an installation gives it out again, and nothing changes. -/
theorem install_of_held {held : Installation} (hheld : installer.installation = some held)
    (tag : String) (registry : Registry) (settings : Settings) :
    installer.install tag registry settings = (held, installer, registry) := by
  rw [install, hheld]

/-- An installer without one makes it and keeps it, and the registry serves the documentation. -/
theorem install_of_none (hnone : installer.installation = none)
    (tag : String) (registry : Registry) (settings : Settings) :
    let made : Installation := ⟨tag, (Inventory.ofRegistry registry settings).openapi tag⟩
    installer.install tag registry settings =
      (made, ⟨some made⟩, (docsLayers settings).foldl Registry.push registry) := by
  rw [install, hnone]

theorem isInstalled_eq_false_iff :
    installer.isInstalled = false ↔ installer.installation = none := by
  rw [isInstalled, Option.isSome_eq_false_iff, Option.isNone_iff_eq_none]

end Installer

namespace Session

/-- Whether an installer was asked for an installation since its last reset. -/
def installedSince (name : I) (history : List (Step I R)) : Bool :=
  (history.rtakeWhile fun step => !step.resets name).any (·.installs name)

theorem installedSince_concat (name : I) (history : List (Step I R)) (step : Step I R) :
    installedSince name (history ++ [step]) =
      (!step.resets name && (step.installs name || installedSince name history)) := by
  rw [installedSince, List.rtakeWhile_concat]
  cases step.resets name with
  | true => rfl
  | false => simp [installedSince, Bool.or_comm]

variable [DecidableEq R]

/-- Whether an installation was made by the first install of an installer since its last reset,
of the registry that it was asked for as that stood before the step. -/
def MadeFirst (session : Session I R) (name : I) (steps : List (Step I R))
    (made : Installation) : Prop :=
  ∃ before registry tag settings after,
    steps = before ++ .install name registry tag settings :: after ∧
      (∀ step ∈ after, step.resets name = false) ∧
      installedSince name before = false ∧
      made = ⟨tag, (Inventory.ofRegistry ((session.run before).registries registry)
        settings).openapi tag⟩

/-- The layers that a step behind some others adds to a registry. -/
def addedBy (name : R) (history : List (Step I R)) : Step I R → List Layer
  | .install installer registry _ settings =>
    if registry = name ∧ installedSince installer history = false then
      [.middleware ⟨.ofPrefix settings.docsRoot, some ⟨"docsAssets", none⟩⟩,
        .middleware ⟨.ofPrefix settings.docsRoot, some ⟨"docsUi", none⟩⟩]
    else []
  | .reset _ => []
  | .push registry layer => if registry = name then [layer] else []

/-- The layers that some steps behind others add to a registry, in the order of the steps. -/
def addedAfter (name : R) : (history steps : List (Step I R)) → List Layer
  | _, [] => []
  | history, step :: steps =>
    addedBy name history step ++ addedAfter name (history ++ [step]) steps

variable {session : Session I R}

theorem run_concat (session : Session I R) (steps : List (Step I R)) (step : Step I R) :
    session.run (steps ++ [step]) = ((session.run steps).step step).2 := by
  rw [run, List.foldl_append]
  rfl

theorem addedAfter_concat (name : R) (history steps : List (Step I R)) (step : Step I R) :
    addedAfter name history (steps ++ [step]) =
      addedAfter name history steps ++ addedBy name (history ++ steps) step := by
  induction steps generalizing history with
  | nil => simp [addedAfter]
  | cons first steps ih =>
      rw [List.cons_append, addedAfter, ih, addedAfter, List.append_assoc, List.append_assoc]
      rfl

theorem installers_step_reset (session : Session I R) (name other : I) :
    (session.step (.reset name)).2.installers other =
      if other = name then .new else session.installers other := rfl

theorem registries_step_push (session : Session I R) (name other : R) (layer : Layer) :
    (session.step (.push name layer)).2.registries other =
      if other = name then (session.registries name).push layer
      else session.registries other := rfl

/-- An install of an installer that holds an installation gives it back and changes nothing. -/
theorem step_install_of_held {name : I} {held : Installation}
    (hheld : (session.installers name).installation = some held) (registry : R) (tag : String)
    (settings : Settings) :
    session.step (.install name registry tag settings) = (some held, session) := by
  have hinstallers : (fun other => if other = name then session.installers name
      else session.installers other) = session.installers := by
    funext other
    by_cases hother : other = name
    · rw [if_pos hother, hother]
    · rw [if_neg hother]
  have hregistries : (fun other => if other = registry then session.registries registry
      else session.registries other) = session.registries := by
    funext other
    by_cases hother : other = registry
    · rw [if_pos hother, hother]
    · rw [if_neg hother]
  rw [step, Installer.install_of_held hheld]
  simp only [setInstaller, setRegistry, hinstallers, hregistries]

/-- Any other install makes an installation and adds the layers of the documentation. -/
theorem step_install_of_none {name : I} (hnone : (session.installers name).installation = none)
    (registry : R) (tag : String) (settings : Settings) :
    let made : Installation :=
      ⟨tag, (Inventory.ofRegistry (session.registries registry) settings).openapi tag⟩
    session.step (.install name registry tag settings) =
      (some made, (session.setInstaller name ⟨some made⟩).setRegistry registry
        ((Installer.docsLayers settings).foldl Registry.push (session.registries registry))) := by
  rw [step, Installer.install_of_none hnone]

/-- An installation is held after an install of the installer, and until a reset of it. -/
theorem isInstalled_step (session : Session I R) (step : Step I R) (name : I) :
    ((session.step step).2.installers name).isInstalled =
      (!step.resets name && (step.installs name || (session.installers name).isInstalled)) := by
  cases step with
  | install installer registry tag settings =>
      cases hheld : (session.installers installer).installation with
      | some held =>
          rw [step_install_of_held hheld]
          by_cases hname : installer = name
          · subst hname
            simp [Step.resets, Step.installs, Installer.isInstalled, hheld]
          · simp [Step.resets, Step.installs, hname]
      | none =>
          rw [step_install_of_none hheld]
          by_cases hname : installer = name
          · simp [Step.resets, Step.installs, hname, setInstaller, setRegistry,
              Installer.isInstalled]
          · simp [Step.resets, Step.installs, hname, Ne.symm hname, setInstaller, setRegistry]
  | reset installer =>
      rw [installers_step_reset]
      by_cases hname : installer = name
      · simp [Step.resets, hname, Installer.isInstalled, Installer.new]
      · simp [Step.resets, Step.installs, hname, Ne.symm hname]
  | push registry layer => rfl

/-- An installation that is held after a step was held before, or was made by the step. -/
theorem installation_step (session : Session I R) (step : Step I R) (name : I)
    (held : Installation) :
    ((session.step step).2.installers name).installation = some held ↔
      (step.resets name = false ∧ (session.installers name).installation = some held) ∨
        (session.installers name).isInstalled = false ∧
          ∃ registry tag settings, step = .install name registry tag settings ∧
            held = ⟨tag, (Inventory.ofRegistry (session.registries registry)
              settings).openapi tag⟩ := by
  cases step with
  | install installer registry tag settings =>
      by_cases hname : installer = name
      · subst hname
        cases hbefore : (session.installers installer).installation with
        | some present =>
            rw [step_install_of_held hbefore]
            simp [Step.resets, hbefore, Installer.isInstalled]
        | none =>
            have hnone : (session.installers installer).isInstalled = false :=
              Installer.isInstalled_eq_false_iff.mpr hbefore
            rw [step_install_of_none hbefore]
            simp only [setInstaller, setRegistry, if_pos, Option.some.injEq]
            constructor
            · rintro rfl
              exact Or.inr ⟨hnone, registry, tag, settings, rfl, rfl⟩
            · rintro (⟨-, habsent⟩ | ⟨-, _, _, _, hstep, rfl⟩)
              · exact absurd habsent (Option.some_ne_none held).symm
              · injection hstep with _ hregistry htag hsettings
                rw [hregistry, htag, hsettings]
      · have hsame : (session.step (.install installer registry tag settings)).2.installers name =
            session.installers name := by
          cases hbefore : (session.installers installer).installation with
          | some present => rw [step_install_of_held hbefore]
          | none =>
              rw [step_install_of_none hbefore]
              simp [setInstaller, setRegistry, Ne.symm hname]
        simp [hsame, Step.resets, hname]
  | reset installer =>
      rw [installers_step_reset]
      by_cases hname : installer = name
      · simp [Step.resets, hname, Installer.new]
      · simp [Step.resets, hname, Ne.symm hname]
  | push registry layer => simp [step, setRegistry, Step.resets]

/-- The first install since the last reset is an earlier step, unless the last step is one and
there was none before. -/
theorem madeFirst_concat (session : Session I R) (name : I) (steps : List (Step I R))
    (step : Step I R) (made : Installation) :
    MadeFirst session name (steps ++ [step]) made ↔
      (step.resets name = false ∧ MadeFirst session name steps made) ∨
        installedSince name steps = false ∧
          ∃ registry tag settings, step = .install name registry tag settings ∧
            made = ⟨tag, (Inventory.ofRegistry ((session.run steps).registries registry)
              settings).openapi tag⟩ := by
  constructor
  · rintro ⟨before, registry, tag, settings, after, hsteps, hafter, hfirst, hmade⟩
    cases after using List.reverseRecOn with
    | nil =>
        obtain ⟨hbefore, hstep⟩ := List.append_inj' hsteps rfl
        rw [List.singleton_inj] at hstep
        subst hbefore hstep
        exact Or.inr ⟨hfirst, registry, tag, settings, rfl, hmade⟩
    | append_singleton after last =>
        rw [← List.cons_append, ← List.append_assoc] at hsteps
        obtain ⟨hearlier, hstep⟩ := List.append_inj' hsteps rfl
        rw [List.singleton_inj] at hstep
        subst hstep
        refine Or.inl ⟨hafter step (by simp), before, registry, tag, settings, after, hearlier,
          ?_, hfirst, hmade⟩
        exact fun other hother => hafter other (List.mem_append_left _ hother)
  · rintro (⟨hstep, before, registry, tag, settings, after, rfl, hafter, hfirst, hmade⟩ |
      ⟨hfirst, registry, tag, settings, rfl, hmade⟩)
    · refine ⟨before, registry, tag, settings, after ++ [step], by simp, ?_, hfirst, hmade⟩
      intro other hother
      rcases List.mem_append.mp hother with hearlier | hlast
      · exact hafter other hearlier
      · rw [List.mem_singleton.mp hlast]
        exact hstep
    · exact ⟨steps, registry, tag, settings, [], rfl, by simp, hfirst, hmade⟩

/-- After any steps an installer holds an installation exactly if one was asked for since its last
reset. -/
theorem isInstalled_run (registries : R → Registry) (steps : List (Step I R)) (name : I) :
    (((start registries).run steps).installers name).isInstalled = installedSince name steps := by
  induction steps using List.reverseRecOn with
  | nil => rfl
  | append_singleton steps step ih =>
      rw [run_concat, isInstalled_step, ih, installedSince_concat]

/-- What an installer holds after any steps was made by its first install since its last reset. -/
theorem installation_run (registries : R → Registry) (steps : List (Step I R)) (name : I)
    (held : Installation) :
    (((start registries).run steps).installers name).installation = some held ↔
      MadeFirst (start registries) name steps held := by
  induction steps using List.reverseRecOn with
  | nil => simp [run, start, Installer.new, MadeFirst]
  | append_singleton steps step ih =>
      rw [run_concat, installation_step, ih, isInstalled_run, madeFirst_concat]

/-- Asking once more for an installation leaves every registry as it is. -/
theorem registries_step_install_of_installedSince {registries : R → Registry}
    {steps : List (Step I R)} {name : I} (hheld : installedSince name steps = true)
    (registry : R) (tag : String) (settings : Settings) :
    let session := (start registries).run steps
    (session.step (.install name registry tag settings)).2.registries = session.registries := by
  intro session
  rw [← isInstalled_run registries] at hheld
  obtain ⟨held, hsome⟩ := Option.isSome_iff_exists.mp hheld
  rw [step_install_of_held hsome]

/-- One step adds to a registry the layers that its history tells. -/
theorem layers_step (registries : R → Registry) (steps : List (Step I R)) (step : Step I R)
    (name : R) :
    let session := (start registries).run steps
    ((session.step step).2.registries name).layers =
      (session.registries name).layers ++ addedBy name steps step := by
  intro session
  cases step with
  | install installer registry tag settings =>
      cases hheld : installedSince installer steps with
      | true =>
          rw [registries_step_install_of_installedSince hheld]
          simp [session, addedBy, hheld]
      | false =>
          have hnone : (session.installers installer).installation = none := by
            rw [← Installer.isInstalled_eq_false_iff, isInstalled_run, hheld]
          rw [step_install_of_none hnone, addedBy, hheld]
          by_cases hname : registry = name
          · subst hname
            simp only [setRegistry, if_pos, and_self]
            rw [Registry.layers_foldl_push]
            rfl
          · simp [setRegistry, setInstaller, hname, Ne.symm hname]
  | reset installer => simp [step, setInstaller, addedBy]
  | push registry layer =>
      rw [registries_step_push]
      by_cases hname : registry = name
      · simp [hname, addedBy, Registry.push]
      · simp [hname, Ne.symm hname, addedBy]

/-- After any steps a registry has its first layers, then those that the steps added, in order. -/
theorem layers_run (registries : R → Registry) (steps : List (Step I R)) (name : R) :
    (((start registries).run steps).registries name).layers =
      (registries name).layers ++ addedAfter name ([] : List (Step I R)) steps := by
  induction steps using List.reverseRecOn with
  | nil => simp [run, start, addedAfter]
  | append_singleton steps step ih =>
      rw [run_concat, layers_step, ih, addedAfter_concat, List.nil_append, List.append_assoc]

/-- After any steps an installer holds an installation exactly if it was asked for one since its
last reset, and then that of the first such install; every install gives back what is held.  A
registry has its first layers, then those pushed and those of the documentation, the latter for
each install that was the first of its installer.  No other install and no reset changes a
registry. -/
theorem installs_once (registries : R → Registry) (steps : List (Step I R)) :
    let session := (start registries).run steps
    (∀ name, ((session.installers name).isInstalled = true ↔ installedSince name steps = true) ∧
        ∀ held, (session.installers name).installation = some held ↔
          MadeFirst (start registries) name steps held) ∧
      (∀ name registry tag settings,
        let next := session.step (.install name registry tag settings)
        (∃ held, next.1 = some held ∧ (next.2.installers name).installation = some held) ∧
          (installedSince name steps = true → next.2.registries = session.registries)) ∧
      (∀ name, (session.step (.reset name)).2.registries = session.registries) ∧
      ∀ name, (session.registries name).layers =
        (registries name).layers ++ addedAfter name ([] : List (Step I R)) steps := by
  intro session
  refine ⟨?_, ?_, ?_, ?_⟩
  · intro name
    exact ⟨by rw [isInstalled_run], installation_run registries steps name⟩
  · intro name registry tag settings next
    refine ⟨?_, fun hheld => registries_step_install_of_installedSince hheld registry tag settings⟩
    cases hbefore : (session.installers name).installation with
    | some held =>
        have hnext : next = (some held, session) :=
          step_install_of_held hbefore registry tag settings
        exact ⟨held, by rw [hnext], by rw [hnext, hbefore]⟩
    | none =>
        have hnext := step_install_of_none hbefore registry tag settings
        refine ⟨_, congrArg Prod.fst hnext, ?_⟩
        rw [show next = _ from hnext]
        simp [setRegistry, setInstaller]
  · intro name
    rfl
  · intro name
    exact layers_run registries steps name

end Session

end RouteAtlas
