import ObjectLens.Proofs.ListedAnswers

/-! The JSON form of an answer carries the answer: every field of it stands under its name and is read back from there.
Only the bytes of a function are not repeated, which are those of its instructions. -/

namespace ObjectLens

namespace Json

def field? (value : Json) (name : String) : Option Json :=
  match value with
  | .object fields => fields.lookup name
  | _ => none

def number? : Json → Option Nat
  | .number value => some value
  | _ => none

def string? : Json → Option String
  | .string text => some text
  | _ => none

/-- A string, or nothing in its place. -/
def stringOrNull? : Json → Option (Option String)
  | .string text => some (some text)
  | .null => some none
  | _ => none

def byte? (value : Json) : Option UInt8 := do
  let number ← value.number?
  if number < 256 then some (UInt8.ofNat number) else none

variable {α : Type}

def listOf? (read? : Json → Option α) : Json → Option (List α)
  | .array items => items.mapM read?
  | _ => none

section

variable (name : String) (value : Json) (fields : List (String × Json))

@[simp] theorem field?_first : (object ((name, value) :: fields)).field? name = some value := List.lookup_cons_self

@[simp] theorem field?_further {other : String} (differs : other ≠ name) :
    (object ((name, value) :: fields)).field? other = (object fields).field? other := by
  rw [field?, field?, List.lookup_cons, beq_false_of_ne differs]

end

@[simp] theorem number?_number (value : Nat) : (number value).number? = some value := rfl

@[simp] theorem string?_string (text : String) : (string text).string? = some text := rfl

@[simp] theorem stringOrNull?_ofOption (text : Option String) : (ofOption text).stringOrNull? = some text := by
  cases text <;> rfl

@[simp] theorem byte?_number (byte : UInt8) : (number byte.toNat).byte? = some byte := by
  rw [byte?, number?_number, Option.bind_eq_bind, Option.bind_some, if_pos byte.toNat_lt, UInt8.ofNat_toNat]

theorem listOf?_array {read? : Json → Option α} {tell : α → Json} (items : List α)
    (reads : ∀ item ∈ items, read? (tell item) = some item) : listOf? read? (.array (items.map tell)) = some items := by
  rw [listOf?, List.mapM_map]
  induction items with
  | nil => rfl
  | cons item others ih =>
    rw [List.mapM_cons, Function.comp, reads item List.mem_cons_self, Option.bind_eq_bind, Option.bind_some]
    rw [ih fun other member => reads other (List.mem_cons_of_mem _ member)]
    rfl

end Json

open Json (listOf?)

namespace Instruction

def ofJson? (value : Json) : Option Instruction := do
  return ⟨← (← value.field? "address").number?, ← listOf? Json.byte? (← value.field? "bytes"),
    ← (← value.field? "mnemonic").string?, ← (← value.field? "operands").string?⟩

theorem ofJson?_toJson (instruction : Instruction) : ofJson? instruction.toJson = some instruction := by
  have bytes := Json.listOf?_array instruction.bytes fun byte _ => Json.byte?_number byte
  simp [ofJson?, toJson, bytes]

end Instruction

namespace Function

def ofJson? (value : Json) : Option Function := do
  let instructions ← listOf? Instruction.ofJson? (← value.field? "instructions")
  return ⟨← (← value.field? "name").string?, ← (← value.field? "address").number?, ← (← value.field? "size").number?,
    instructions.flatMap (·.bytes), instructions⟩

theorem ofJson?_toJson {function : Function} (whole : function.instructions.flatMap (·.bytes) = function.bytes) :
    ofJson? function.toJson = some function := by
  have listed := Json.listOf?_array function.instructions fun instruction _ => Instruction.ofJson?_toJson instruction
  simp [ofJson?, toJson, listed, whole]

end Function

def Region.ofJson? (value : Json) : Option Region := do
  return ⟨← (← value.field? "name").string?, ← (← value.field? "start").number?, ← (← value.field? "end").number?,
    ← (← value.field? "file_offset").number?⟩

def Symbol.ofJson? (value : Json) : Option Symbol := do
  return ⟨← (← value.field? "name").string?, ← (← value.field? "address").number?, ← (← value.field? "size").number?⟩

def Stub.ofJson? (value : Json) : Option Stub := do
  return ⟨← (← value.field? "address").number?, ← (← value.field? "name").string?⟩

def Format.ofName? : String → Option Format
  | "elf" => some .elf
  | "macho" => some .machO
  | "pe" => some .pe
  | _ => none

theorem Format.ofName?_name (format : Format) : ofName? format.name = some format := by
  cases format <;> rfl

def Arch.ofNameOrNone? : Option String → Option (Option Arch)
  | none => some none
  | some name => (ofName? name).map some

private theorem Arch.ofNameOrNone?_name (arch : Option Arch) : ofNameOrNone? (arch.map name) = some arch := by
  cases arch with
  | none => rfl
  | some arch => rw [Option.map_some, ofNameOrNone?, ofName?_name, Option.map_some]

namespace CommandLine

namespace Report

theorem ofJson?_regionJson (region : Region) : Region.ofJson? (regionJson region) = some region := by
  simp [Region.ofJson?, regionJson]

theorem ofJson?_symbolJson (symbol : Symbol) : Symbol.ofJson? (symbolJson symbol) = some symbol := by
  simp [Symbol.ofJson?, symbolJson]

theorem ofJson?_stubJson (stub : Stub) : Stub.ofJson? (stubJson stub) = some stub := by
  simp [Stub.ofJson?, stubJson]

/-- Reads the answer to a question from its JSON form. -/
def ofJson? (value : Json) : Command → Option Report
  | .info => do
    let format ← Format.ofName? (← (← value.field? "format").string?)
    let arch ← Arch.ofNameOrNone? (← (← value.field? "arch").stringOrNull?)
    let regions ← listOf? Region.ofJson? (← value.field? "regions")
    return .info (← (← value.field? "path").string?) format arch (← (← value.field? "functions").number?)
      (← (← value.field? "stubs").number?) regions (← (← value.field? "sha256").string?)
  | .function _ => (Function.ofJson? value).map .function
  | .name _ | .plt _ => do
    return .name (← (← value.field? "address").number?) (← (← value.field? "name").stringOrNull?)
  | .symbols => (listOf? Symbol.ofJson? value).map .symbols
  | .stubs => (listOf? Stub.ofJson? value).map .stubs

variable {path : String} {image : Image} {command : Command} {report : Report}

/-- The bytes of a function are those of its instructions. -/
private theorem whole_of_resolve {wanted : String} {found : Function} (known : image.resolve wanted = .ok found) :
    found.instructions.flatMap (·.bytes) = found.bytes := by
  cases named : image.symbols.named? wanted with
  | none =>
    rw [Image.resolve, Image.resolveBy_of_unnamed named] at known
    cases known
  | some symbol =>
    rw [Image.resolve, Image.resolveBy_of_named named] at known
    by_cases empty : symbol.size = 0
    · rw [Image.function_of_size_zero empty] at known
      cases known
      rfl
    · obtain ⟨code, arch, _, _, whole, rfl⟩ := (Image.function_eq_ok_iff empty).mp known
      exact whole

/-- The JSON form of an answer tells all of the answer. -/
theorem ofJson?_json (known : ofCommand path image command = .ok report) :
    ofJson? report.json command = some report := by
  cases command with
  | info =>
    cases known
    have regions := Json.listOf?_array image.regions fun region _ => ofJson?_regionJson region
    simp [ofJson?, ofImage, json, regions, Format.ofName?_name, Arch.ofNameOrNone?_name]
  | function wanted =>
    cases resolved : image.resolve wanted with
    | error error =>
      rw [ofCommand, resolved] at known
      cases known
    | ok found =>
      rw [ofCommand, resolved] at known
      cases known
      rw [ofJson?, json, Function.ofJson?_toJson (whole_of_resolve resolved), Option.map_some]
  | name address | plt address =>
    cases known
    simp [ofJson?, json]
  | symbols =>
    cases known
    rw [ofJson?, json, Json.listOf?_array _ fun symbol _ => ofJson?_symbolJson symbol, Option.map_some]
  | stubs =>
    cases known
    rw [ofJson?, json, Json.listOf?_array _ fun stub _ => ofJson?_stubJson stub, Option.map_some]

example : (name 4 none).json.pretty = "\x7b\n  \"address\": 4,\n  \"name\": null\n\x7d" := by
  decide +kernel

/-- Two answers to one question that look alike as JSON are the same. -/
theorem eq_of_json_eq {other : Report} {another : Image} {elsewhere : String}
    (known : ofCommand path image command = .ok report) (told : ofCommand elsewhere another command = .ok other)
    (same : report.json = other.json) : report = other := by
  have read := ofJson?_json told
  rw [← same, ofJson?_json known] at read
  exact Option.some.inj read

end Report

/-- What a run prints as JSON is the text of a value that tells all of the answer. -/
theorem Invocation.run_of_json {invocation : Invocation} {files : String → FileState} {config : Config} {image : Image}
    {report : Report} (json : invocation.json = true) (chosen : invocation.options files = .ok config)
    (opened : Image.load none config (files invocation.binary) = .ok image)
    (known : Report.ofCommand invocation.binary image invocation.command = .ok report) :
    ∃ value : Json, invocation.run files = .success (value.pretty ++ "\n") ∧
      Report.ofJson? value invocation.command = some report := by
  refine ⟨report.json, ?_, Report.ofJson?_json known⟩
  rw [run_of_report chosen opened known, Report.render, if_pos json]

end CommandLine

end ObjectLens
