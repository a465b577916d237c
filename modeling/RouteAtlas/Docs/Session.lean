import RouteAtlas.Docs.Installation

/-!
# Sessions

A session works on several registries with several installers.  Its steps install, reset an
installer, or add a layer to a registry, in any order.
-/

namespace RouteAtlas

/-- What one step of a session asks for. -/
inductive Step (I R : Type) where
  | install (installer : I) (registry : R) (tag : String) (settings : Settings)
  | reset (installer : I)
  | push (registry : R) (layer : Layer)

/-- The installers and registries of a session, by name. -/
structure Session (I R : Type) where
  installers : I → Installer
  registries : R → Registry

namespace Session

variable {I R : Type}

def start (registries : R → Registry) : Session I R :=
  ⟨fun _ => .new, registries⟩

def setInstaller [DecidableEq I] (session : Session I R) (name : I) (installer : Installer) :
    Session I R :=
  { session with installers := fun other => if other = name then installer
      else session.installers other }

def setRegistry [DecidableEq R] (session : Session I R) (name : R) (registry : Registry) :
    Session I R :=
  { session with registries := fun other => if other = name then registry
      else session.registries other }

variable [DecidableEq I] [DecidableEq R]

/-- What a step gives back, which is an installation if it is an install, and the session after
it. -/
def step (session : Session I R) : Step I R → Option Installation × Session I R
  | .install installer registry tag settings =>
    let (held, installer', registry') :=
      (session.installers installer).install tag (session.registries registry) settings
    (some held, (session.setInstaller installer installer').setRegistry registry registry')
  | .reset installer =>
    (none, session.setInstaller installer (session.installers installer).reset)
  | .push registry layer =>
    (none, session.setRegistry registry ((session.registries registry).push layer))

def run (session : Session I R) (steps : List (Step I R)) : Session I R :=
  steps.foldl (fun session step => (session.step step).2) session

end Session

end RouteAtlas
