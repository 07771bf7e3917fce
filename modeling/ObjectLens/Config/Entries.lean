import ObjectLens.Config

/-! Options by their names. Every option may be left out, but not given twice; names of no option are passed over. -/

namespace ObjectLens.Config

/-- How a kind of value is read as one of an option. An architecture may be left open. -/
structure Reader (α : Type) where
  arch? : α → Option (Option Arch)
  dialect? : α → Option Dialect
  flag? : α → Option Bool

/-- The only value with a name. The outer answer is absent if there are several. -/
def only? (name : String) (entries : List (String × α)) : Option (Option α) :=
  match entries.filter (·.1 = name) with
  | [] => some none
  | [entry] => some (some entry.2)
  | _ => none

/-- The value that is read, or the default where there is none. -/
def readOr? (default : β) (read : α → Option β) (value : Option α) : Option β := value.elim (some default) read

def ofValues? (reader : Reader α) (arch dialect keepUnderscore : Option α) : Option Config := do
  return ⟨← readOr? none reader.arch? arch, ← readOr? .intel reader.dialect? dialect,
    ← readOr? false reader.flag? keepUnderscore⟩

def ofEntries? (reader : Reader α) (entries : List (String × α)) : Option Config := do
  ofValues? reader (← only? "arch" entries) (← only? "syntax" entries) (← only? "keep_leading_underscore" entries)

end ObjectLens.Config
