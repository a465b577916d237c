/-!
# Parameters of the command

What the command can be given: the snapshot by its place, and all else by name.
-/

namespace RouteAtlas.Command

/-- What the command can be given. -/
inductive Parameter where
  | snapshot
  | format
  | output
  | tag
  | title
  | apiVersion
  | description
  | docsRoot
  | requestIdent
  | noLinks
  | verbose
  | help
  | version
  deriving DecidableEq, Repr

namespace Parameter

/-- The parameters that are given by name, in the order of the manual. -/
def named : List Parameter :=
  [.format, .output, .tag, .title, .apiVersion, .description, .docsRoot, .requestIdent,
    .noLinks, .verbose, .help, .version]

/-- The parameters that a run takes, in the order of the manual; the others only ask for the
manual or the version. -/
def ofRun : List Parameter :=
  .snapshot :: named.filter fun parameter => parameter != .help && parameter != .version

/-- The name that follows two dashes. -/
def longName? : Parameter → Option String
  | .snapshot => none
  | .format => some "format"
  | .output => some "output"
  | .tag => some "tag"
  | .title => some "title"
  | .apiVersion => some "api-version"
  | .description => some "description"
  | .docsRoot => some "docs-root"
  | .requestIdent => some "request-ident"
  | .noLinks => some "no-links"
  | .verbose => some "verbose"
  | .help => some "help"
  | .version => some "version"

/-- The letter that follows one dash. -/
def shortName? : Parameter → Option Char
  | .format => some 'f'
  | .output => some 'o'
  | .tag => some 't'
  | .verbose => some 'v'
  | .help => some 'h'
  | .version => some 'V'
  | _ => none

/-- What the manual calls the value; a parameter without one is a switch. -/
def valueName? : Parameter → Option String
  | .snapshot => some "SNAPSHOT"
  | .format => some "OUTPUT_FORMAT"
  | .output => some "FILE"
  | .tag => some "TAG"
  | .title => some "TITLE"
  | .apiVersion => some "API_VERSION"
  | .description => some "DESCRIPTION"
  | .docsRoot => some "DOCS_ROOT"
  | .requestIdent => some "REQUEST_IDENT"
  | _ => none

def takesValue (parameter : Parameter) : Bool :=
  parameter.valueName?.isSome

/-- Whether the value is a path, which cannot be empty. -/
def isPath : Parameter → Bool
  | .snapshot => true
  | .output => true
  | _ => false

def ofLongName? (name : String) : Option Parameter :=
  named.find? (·.longName? == some name)

def ofShortName? (name : Char) : Option Parameter :=
  named.find? (·.shortName? == some name)

/-- How messages show the parameter: its long name, then its value's name. -/
def label (parameter : Parameter) : String :=
  " ".intercalate
    ((parameter.longName?.map ("--" ++ ·)).toList ++
      (parameter.valueName?.map fun name => "<" ++ name ++ ">").toList)

end Parameter

end RouteAtlas.Command
