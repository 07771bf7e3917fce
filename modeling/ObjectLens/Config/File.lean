import ObjectLens.Config.Json
import ObjectLens.Config.Yaml
import ObjectLens.FileState

/-! Options in a file, which is JSON if its name says so and YAML otherwise. -/

namespace ObjectLens

inductive ConfigError where
  | missing (path : String)
  | directory (path : String)
  | badJson
  | badYaml
  deriving DecidableEq, Repr, Inhabited

namespace ConfigError

def message : ConfigError → String
  | .missing path | .directory path => "Failed to read config file: " ++ path
  | .badJson => "Failed to parse config JSON"
  | .badYaml => "Failed to parse config YAML"

def cause : ConfigError → String
  | .missing _ => "No such file or directory (os error 2)"
  | .directory _ => "Is a directory (os error 21)"
  | .badJson | .badYaml => "the text does not follow the format, or it does not hold options"

end ConfigError

namespace Config

/-- The last part of a path has the extension `json` after some name. -/
def isJsonPath (path : String) : Bool :=
  let name := (path.splitOn "/").getLastD ""
  name.endsWith ".json" && name ≠ ".json"

def ofFile (path : String) : FileState → Except ConfigError Config
  | .missing => .error (.missing path)
  | .directory => .error (.directory path)
  | .regular bytes =>
    let (read, otherwise) := if isJsonPath path then (ofJson?, ConfigError.badJson) else (ofYaml?, .badYaml)
    match (String.fromUTF8? bytes).bind read with
    | some config => .ok config
    | none => .error otherwise

/-- The options of a file, if one is named, with those of the command line over them. -/
def build (file : Option (String × FileState)) (arch : Option Arch) (att : Bool) : Except ConfigError Config := do
  let config ← match file with
    | none => .ok {}
    | some (path, state) => ofFile path state
  return config.override arch att

end Config

end ObjectLens
