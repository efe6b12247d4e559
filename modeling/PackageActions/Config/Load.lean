import PackageActions.Config.Environment
import PackageActions.Config.OfToml
import PackageActions.FileTree

/-!
# Finding the configuration

A configuration file is either named, and then has to be there, or it is looked for in the configuration
directory of the user. If there is no file at that place, the default settings hold.
-/

namespace PackageActions.Config

/-- The configuration directory in the home. The home is the one that the environment names; without one, a
system may know the home from its list of users, which is not looked at here. -/
def homeDirectory? (env : Environment) : Option Bytes :=
  match env "HOME" with
  | some home => if home.isEmpty then none else some (Path.join home (Text.encodeUtf8 ".config"))
  | none => none

/-- The configuration directory of the user: the one that the environment names by an absolute path, or
else the one in the home. -/
def directory? (env : Environment) : Option Bytes :=
  match env "XDG_CONFIG_HOME" with
  | some path => if Path.isAbsolute path then some path else homeDirectory? env
  | none => homeDirectory? env

/-- Where the configuration file of the user is. -/
def defaultPath (env : Environment) : Except Error Bytes :=
  match directory? env with
  | some directory => .ok (Path.join directory (Text.encodeUtf8 "pact/config.toml"))
  | none => .error (.config (.notFound "config directory"))

/-- The configuration of a file that has to be there. -/
def ofFile (files : Files) (path : Bytes) : Except Error Config :=
  match files.contents path with
  | .error failure =>
    if failure.kind = .notFound then .error (.config (.notFound (Text.decodeLossy path)))
    else .error (.io failure)
  | .ok bytes =>
    match Text.decodeUtf8? bytes with
    | some text => ofToml text
    | none => .error (.io .notUtf8)

/-- The configuration of a named file, or of the user. -/
def load (files : Files) (env : Environment) (path : Option Bytes) : Except Error Config :=
  match path with
  | some path => ofFile files path
  | none => do
    let path ← defaultPath env
    match files.lookUp path with
    | .ok () => ofFile files path
    | .error _ => pure {}

end PackageActions.Config
