import ObjectLens.Arch

/-! The options a binary is opened with. -/

namespace ObjectLens

/-- What the user may choose about a binary. Every option has a default. -/
structure Config where
  /-- Decode with this architecture, whatever the file says. -/
  arch : Option Arch := none
  dialect : Dialect := .intel
  /-- Keep the underscore that Mach-O puts in front of names from C. -/
  keepUnderscore : Bool := false
  deriving DecidableEq, Repr, Inhabited

namespace Config

/-- The options of a file with those of the command line over them. -/
def override (config : Config) (arch : Option Arch) (att : Bool) : Config where
  arch := arch.or config.arch
  dialect := if att then .att else config.dialect
  keepUnderscore := config.keepUnderscore

end Config

end ObjectLens
