import RouteAtlas.Command.UsageFault

/-!
# The manual

The command explains itself in two texts: a summary with one line for each parameter, and a
detailed text with a paragraph for each.
-/

namespace RouteAtlas.Command

def versionLine : String := commandName ++ " 0.1.0\n"

namespace Parameter

def purpose : Parameter → String
  | .snapshot => "Path to the registry snapshot (.json, .yaml or .yml)"
  | .format => "Output format (html sitemap, or json/yaml OpenAPI document)"
  | .output => "Output file path (if not specified, outputs to stdout)"
  | .tag => "Tag grouping every operation in the documentation"
  | .title => "Title of the generated API document"
  | .apiVersion => "Version of the generated API document"
  | .description => "Description of the generated API document"
  | .docsRoot => "Path the documentation UI is served under; excluded from the output"
  | .requestIdent => "Request parameter name assumed when a handler's own can't be detected"
  | .noLinks => "Don't link sitemap entries to the documentation UI"
  | .verbose => "Enable verbose output"
  | .help => "Print help"
  | .version => "Print version"

def default? : Parameter → Option String
  | .format => some (OutputFormat.name .html)
  | .tag => some defaultTag
  | .title => some OpenApi.defaultTitle
  | .apiVersion => some OpenApi.defaultVersion
  | .description => some OpenApi.defaultDescription
  | .docsRoot => some Settings.defaultDocsRoot
  | .requestIdent => some Settings.defaultRequestIdent
  | _ => none

/-- A default as the manual shows it: between quotes if there are spaces in it. -/
def defaultNote? (parameter : Parameter) : Option String :=
  parameter.default?.map fun value =>
    "[default: " ++ (if value.toList.contains ' ' then Text.quoted value else value) ++ "]"

/-- Both names of a parameter, with room for the short one. -/
def heading (parameter : Parameter) : String :=
  (match parameter.shortName? with
    | some letter => "-" ++ letter.toString ++ ", "
    | none => "    ") ++ parameter.label

end Parameter

namespace Manual

def formatPurpose : OutputFormat → String
  | .html => "HTML sitemap"
  | .json => "OpenAPI document as JSON"
  | .yaml => "OpenAPI document as YAML"

def opening : String :=
  "Generates an HTML sitemap and an OpenAPI document from a web application's route registry" ++
    "\n\n" ++ UsageFault.usage [] ++ "\n\nArguments:\n"

def indent : String := "          "

def headingWidth : Nat :=
  (Parameter.named.map fun parameter => parameter.heading.length).foldl max 0

/-- A heading with blanks up to the end of its column. -/
def padded (heading : String) : String :=
  heading ++ String.ofList (List.replicate (headingWidth - heading.length) ' ')

def brief (parameter : Parameter) : String :=
  let more := match parameter with
    | .format => ["[possible values: " ++ ", ".intercalate (OutputFormat.all.map (·.name)) ++ "]"]
    | .help => ["(see more with '--help')"]
    | _ => []
  " ".intercalate (parameter.purpose :: parameter.defaultNote?.toList ++ more)

/-- The summary: one line for each parameter. -/
def summary : String :=
  opening ++ "  " ++ Parameter.label .snapshot ++ "  " ++ brief .snapshot ++ "\n\nOptions:\n" ++
    String.join (Parameter.named.map fun parameter =>
      "  " ++ padded parameter.heading ++ "  " ++ brief parameter ++ "\n")

def indented (text : String) : String :=
  indent ++ text

def detailedLines (parameter : Parameter) : List String :=
  let hint := if parameter = .help then " (see a summary with '-h')" else ""
  let formats := OutputFormat.all.map fun format =>
    indented ("- " ++ format.name ++ ": " ++ formatPurpose format)
  [indented (parameter.purpose ++ hint)] ++
    (if parameter = .format then ["", indented "Possible values:"] ++ formats else []) ++
    (match parameter.defaultNote? with
      | some note => [indented "", indented note]
      | none => [])

/-- The paragraph that the detailed text has on a parameter. -/
def paragraph (heading : String) (parameter : Parameter) : String :=
  "  " ++ heading ++ "\n" ++ "\n".intercalate (detailedLines parameter) ++ "\n"

/-- The detailed text: a paragraph for each parameter. -/
def detailed : String :=
  opening ++ paragraph (Parameter.label .snapshot) .snapshot ++ "\nOptions:\n" ++
    "\n".intercalate (Parameter.named.map fun parameter =>
      paragraph parameter.heading parameter)

end Manual

end RouteAtlas.Command
