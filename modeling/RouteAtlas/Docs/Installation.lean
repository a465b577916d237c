import RouteAtlas.Inventory

/-!
# Installing the documentation

An install makes the API document of a registry and adds the layers that serve the
documentation to it. An installer does this once: later installs give back the first
installation, whatever they ask for, until the installer is reset.
-/

namespace RouteAtlas

/-- What an install leaves behind. -/
structure Installation where
  tag : String
  document : OpenApi.Document

/-- An installer, with its installation if it made one. -/
structure Installer where
  installation : Option Installation

namespace Installer

def docsHandlers : List String := ["docsAssets", "docsUi"]

def docsLayers (settings : Settings) : List Layer :=
  docsHandlers.map fun name => .middleware ⟨.ofPrefix settings.docsRoot, some ⟨name, none⟩⟩

def new : Installer := ⟨none⟩

/-- The installation of a registry under a tag: the one held already, with the registry as it
is, or else a new one, with the registry serving it. -/
def install (installer : Installer) (tag : String) (registry : Registry)
    (settings : Settings) : Installation × Installer × Registry :=
  match installer.installation with
  | some held => (held, installer, registry)
  | none =>
    let made := ⟨tag, (Inventory.ofRegistry registry settings).openapi tag⟩
    (made, ⟨some made⟩, (docsLayers settings).foldl Registry.push registry)

def isInstalled (installer : Installer) : Bool :=
  installer.installation.isSome

/-- The installer without its installation. Layers added by it stay in their registry. -/
def reset (_ : Installer) : Installer := new

end Installer

end RouteAtlas
