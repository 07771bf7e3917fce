import ObjectLens.Config.Entries
import ObjectLens.JsonText

/-! Options written as JSON: an object, or a list of values in the order of the options. -/

namespace ObjectLens.Config

/-- The name of a choice: a string, or an object with that name and nothing else. -/
def jsonChoice? : JsonText → Option String
  | .string text => text
  | .object [(name, .null)] => name
  | _ => none

def jsonReader : Reader JsonText where
  arch?
    | .null => some none
    | value => do return some (← Arch.ofExactName? (← jsonChoice? value))
  dialect? value := do Dialect.ofName? (← jsonChoice? value)
  flag?
    | .bool value => some value
    | _ => none

/-- The options of a JSON value. All names of an object have to be text. -/
def ofJsonValue? : JsonText → Option Config
  | .object fields => do
    let entries ← fields.mapM fun (name, value) => name.map (·, value)
    ofEntries? jsonReader entries
  | .array items => if 3 < items.length then none else ofValues? jsonReader items[0]? items[1]? items[2]?
  | _ => none

def ofJson? (text : String) : Option Config := do ofJsonValue? (← JsonText.parse? text)

end ObjectLens.Config
