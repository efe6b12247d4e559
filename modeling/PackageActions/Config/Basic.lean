import PackageActions.Action.Options
import PackageActions.Dictionary

/-!
# Configurations

A configuration says how results are shown, what options a fetch has by default, and which repositories
there are.
-/

namespace PackageActions

/-- How results are shown. -/
inductive OutputFormat where
  | plain
  | json
deriving DecidableEq, Inhabited

/-- What a repository holds: packages to be built, or packages in place. -/
inductive RepositoryFormat where
  | source
  | installed
deriving DecidableEq, Inhabited

/-- The settings of one repository. -/
structure RepositoryConfig where
  format : RepositoryFormat
  location : Option String
deriving DecidableEq, Inhabited

/-- All settings; the repositories are listed by name. -/
structure Config where
  output : OutputFormat := .plain
  fetch : FetchOptions := {}
  repositories : Dictionary RepositoryConfig := []
deriving DecidableEq, Inhabited

def OutputFormat.all : List OutputFormat := [.plain, .json]

def OutputFormat.name : OutputFormat → String
  | .plain => "plain"
  | .json => "json"

def RepositoryFormat.all : List RepositoryFormat := [.source, .installed]

def RepositoryFormat.name : RepositoryFormat → String
  | .source => "source"
  | .installed => "installed"

end PackageActions
