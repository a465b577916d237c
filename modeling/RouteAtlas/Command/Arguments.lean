import RouteAtlas.OpenApi.Builder
import RouteAtlas.Settings
import RouteAtlas.Text.Quoted

/-!
# Arguments of the command
-/

namespace RouteAtlas.Command

/-- What the command makes of a snapshot. -/
inductive OutputFormat where
  /-- A sitemap. -/
  | html
  /-- An API document as JSON. -/
  | json
  /-- An API document as YAML. -/
  | yaml
  deriving DecidableEq, Repr

namespace OutputFormat

/-- Every format, in the order of the manual. -/
def all : List OutputFormat := [.html, .json, .yaml]

/-- The name that selects a format. -/
def name : OutputFormat → String
  | .html => "html"
  | .json => "json"
  | .yaml => "yaml"

/-- The name of a format in the command's account of itself. -/
def title : OutputFormat → String
  | .html => "Html"
  | .json => "Json"
  | .yaml => "Yaml"

/-- The format of a name, which is written in lower case. -/
def ofName? (name : String) : Option OutputFormat :=
  all.find? (·.name == name)

end OutputFormat

/-- The tag of all operations, unless another one is given. -/
def defaultTag : String := "api"

/-- What a run of the command is to do. -/
structure Arguments where
  snapshot : String
  format : OutputFormat
  output : Option String
  tag : String
  title : String
  apiVersion : String
  description : String
  docsRoot : String
  requestIdent : String
  noLinks : Bool
  verbose : Bool
  deriving DecidableEq, Repr

namespace Arguments

def settings (arguments : Arguments) : Settings :=
  ⟨arguments.docsRoot, arguments.requestIdent⟩

def info (arguments : Arguments) : OpenApi.Info :=
  ⟨arguments.title, arguments.apiVersion, some arguments.description⟩

def switchWord (isOn : Bool) : String :=
  if isOn then "true" else "false"

/-- The arguments as the command tells them, each by its name. -/
def account (arguments : Arguments) : String :=
  let entries := [
    ("snapshot_path", Text.quoted arguments.snapshot),
    ("output_format", arguments.format.title),
    ("output_path", Text.someOrNone (arguments.output.map Text.quoted)),
    ("tag", Text.quoted arguments.tag),
    ("title", Text.quoted arguments.title),
    ("api_version", Text.quoted arguments.apiVersion),
    ("description", Text.quoted arguments.description),
    ("docs_root", Text.quoted arguments.docsRoot),
    ("request_ident", Text.quoted arguments.requestIdent),
    ("no_links", switchWord arguments.noLinks),
    ("verbose", switchWord arguments.verbose)]
  "CliArgs \x7b " ++ ", ".intercalate (entries.map fun entry => entry.1 ++ ": " ++ entry.2) ++
    " \x7d"

end Arguments

end RouteAtlas.Command
