import TimeServer.Config.Document
import TimeServer.Config.Error
import TimeServer.Files

/-! # Configuration files

Loading a configuration from a file and saving it there.
-/

namespace TimeServer.Config

/-- Reads a configuration file.  The values are not checked. -/
def load (files : Files) (path : String) : Except ConfigError Config :=
  match files.read path with
  | .error e => .error (.read path e)
  | .ok text =>
    match parse? text with
    | some c => .ok c
    | none => .error (.parse path)

def banner : String := "# simple-utcd configuration\n\n"

/-- Writes the configuration to a file, in directories that are made if need be. -/
def save (c : Config) (files : Files) (path : String) : Except ConfigError Unit × Files :=
  match c.render? with
  | none => (.error .serialize, files)
  | some text =>
    match files.createParents path with
    | (.error e, files) => (.error (.write path e), files)
    | (.ok (), files) =>
      match files.write path (banner ++ text) with
      | .error e => (.error (.write path e), files)
      | .ok files => (.ok (), files)

end TimeServer.Config
