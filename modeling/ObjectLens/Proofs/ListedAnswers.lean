import ObjectLens.Proofs.CommandOutcomes
import ObjectLens.Proofs.FunctionBodies

/-! What the program says about a binary follows from the two lists that it shows. The indexes only make this faster:
an answer is the first entry of a list that fits. -/

namespace ObjectLens

namespace Image

open Instruction (Disassembler)

variable {format : Option Format} {config : Config} {file : FileState} {image : Image} {symbol : Symbol}

theorem nameAt?_of_load (opened : load format config file = .ok image) (address : Nat) :
    image.nameAt? address = (image.symbols.entries.find? (·.address == address)).map Symbol.name := by
  obtain ⟨bytes, found, rfl⟩ := ofContents_of_load opened
  exact congrArg (Option.map Symbol.name) (SymbolTable.startingAt?_ofList found.symbols address)

theorem stubNameAt?_of_load (opened : load format config file = .ok image) (address : Nat) :
    image.stubNameAt? address = (image.stubs.entries.find? (·.address == address)).map Stub.name := by
  obtain ⟨bytes, found, rfl⟩ := ofContents_of_load opened
  exact congrArg (Option.map Stub.name) ((StubTable.indexed_ofList found.stubs).startingAt? address)

theorem resolveBy_of_load (opened : load format config file = .ok image) (disassembler : Disassembler)
    (name : String) : image.resolveBy disassembler name =
      match image.symbols.entries.find? (·.name == name) with
      | none => .error (.unknownSymbol name)
      | some symbol => image.function disassembler symbol := by
  have scanned := named?_of_load opened name
  split
  next unknown => exact resolveBy_of_unnamed (scanned.trans unknown)
  next first => exact resolveBy_of_named (scanned.trans first)

private theorem resolveBy_of_first {front back : List Symbol} (opened : load format config file = .ok image)
    (split : image.symbols.entries = front ++ symbol :: back) (first : ∀ earlier ∈ front, earlier.name ≠ symbol.name)
    (disassembler : Disassembler) :
    image.resolveBy disassembler symbol.name = image.function disassembler symbol := by
  have found : image.symbols.entries.find? (·.name == symbol.name) = some symbol := by
    rw [split, List.find?_append, List.find?_cons_of_pos (by simp)]
    rw [List.find?_eq_none.mpr fun earlier member => by simpa using first earlier member]
    rfl
  rw [resolveBy_of_load opened, found]

/-- A function has the address and the size of its symbol, or the failure tells them. -/
private theorem function_placed (image : Image) (disassembler : Disassembler) (symbol : Symbol) :
    (∃ bytes instructions, image.function disassembler symbol =
      .ok ⟨symbol.name, symbol.address, symbol.size, bytes, instructions⟩) ∨
    ∃ fault, image.function disassembler symbol = .error (.badCode symbol.address symbol.size fault) := by
  by_cases empty : symbol.size = 0
  · rw [function_of_size_zero empty, empty]
    exact .inl ⟨_, _, rfl⟩
  · rw [function, if_neg empty]
    cases bytesRead : image.code symbol.address symbol.size with
    | error fault =>
      rw [codeBytes_of_error bytesRead]
      exact .inr ⟨fault, rfl⟩
    | ok code =>
      rw [codeBytes_of_ok bytesRead]
      cases listed : image.instructions disassembler symbol.address symbol.size with
      | error fault =>
        rw [decodeBy_of_error listed]
        exact .inr ⟨fault, rfl⟩
      | ok instructions =>
        rw [decodeBy_of_ok listed]
        exact .inl ⟨_, _, rfl⟩

end Image

namespace CommandLine

/-- The answer to a question as the lists of symbols and stubs tell it, when they are read from front to back. -/
def Report.ofLists (path : String) (image : Image) (symbols : List Symbol) (stubs : List Stub) :
    Command → Except QueryError Report
  | .info => .ok (.info path image.format image.arch symbols.length stubs.length image.regions
      (Sha256.hex image.bytes))
  | .function wanted =>
    match symbols.find? (·.name == wanted) with
    | none => .error (.unknownSymbol wanted)
    | some symbol => (image.function .tables symbol).map .function
  | .name address => .ok (.name address ((symbols.find? (·.address == address)).map Symbol.name))
  | .plt address => .ok (.name address ((stubs.find? (·.address == address)).map Stub.name))
  | .symbols => .ok (.symbols symbols)
  | .stubs => .ok (.stubs stubs)

variable {format : Option Format} {config : Config} {file : FileState} {image : Image}

private theorem Report.ofCommand_of_load (opened : Image.load format config file = .ok image) (path : String)
    (command : Command) : ofCommand path image command =
      ofLists path image image.symbols.entries image.stubs.entries command := by
  cases command with
  | info | symbols | stubs => rfl
  | name address => rw [ofCommand, ofLists, Image.nameAt?_of_load opened]
  | plt address => rw [ofCommand, ofLists, Image.stubNameAt?_of_load opened]
  | function wanted =>
    rw [ofCommand, ofLists, Image.resolve, Image.resolveBy_of_load opened]
    cases image.symbols.entries.find? (·.name == wanted) with
    | none => rfl
    | some symbol => rfl

/-- How a question ends when its answer is known or cannot be given. -/
def Invocation.tell (invocation : Invocation) : Except QueryError Report → Outcome
  | .error error => .failure (.query error)
  | .ok report => .success (report.render invocation.json)

theorem Invocation.run_of_load {invocation : Invocation} {files : String → FileState}
    (chosen : invocation.options files = .ok config)
    (opened : Image.load none config (files invocation.binary) = .ok image) :
    invocation.run files = invocation.tell
      (Report.ofLists invocation.binary image image.symbols.entries image.stubs.entries invocation.command) := by
  rw [← Report.ofCommand_of_load opened]
  cases known : Report.ofCommand invocation.binary image invocation.command with
  | error error => exact run_of_unknown chosen opened known
  | ok report => exact run_of_report chosen opened known

/-- A table of symbols keeps them as they come, and a table of stubs keeps those whose address is new. Looking
something up in a table finds the first entry that was given for it. So what is told about an opened binary, and what a
run of the program prints about it, follows from the lists it shows. A symbol that is the first of its name is resolved
to a function at its own address and of its own size, if its code can be decoded at all. -/
theorem answers_by_lists (entries : List Symbol) (stubs : List Stub) (files : String → FileState)
    (arguments : List String) :
    ((SymbolTable.ofList entries).entries = entries ∧
      (∀ name, (SymbolTable.ofList entries).named? name = entries.find? (·.name == name)) ∧
      ∀ address, (SymbolTable.ofList entries).startingAt? address = entries.find? (·.address == address)) ∧
    ((StubTable.ofList stubs).entries = StubTable.unclaimed stubs ∧
      ((StubTable.ofList stubs).entries.map (·.address)).Nodup ∧
      ∀ address, (StubTable.ofList stubs).startingAt? address = stubs.find? (·.address == address)) ∧
    (∀ format config file image, Image.load format config file = .ok image →
      (∀ address, image.nameAt? address =
        (image.symbols.entries.find? (·.address == address)).map Symbol.name) ∧
      (∀ address, image.stubNameAt? address =
        (image.stubs.entries.find? (·.address == address)).map Stub.name) ∧
      ∀ front symbol back disassembler, image.symbols.entries = front ++ symbol :: back →
        (∀ earlier ∈ front, earlier.name ≠ symbol.name) →
        (∃ bytes instructions, image.resolveBy disassembler symbol.name =
          .ok ⟨symbol.name, symbol.address, symbol.size, bytes, instructions⟩) ∨
        ∃ fault, image.resolveBy disassembler symbol.name =
          .error (.badCode symbol.address symbol.size fault)) ∧
    ∀ invocation config image, Invocation.parse arguments = .ok invocation →
      invocation.options files = .ok config → Image.load none config (files invocation.binary) = .ok image →
      run files arguments = invocation.tell
        (Report.ofLists invocation.binary image image.symbols.entries image.stubs.entries invocation.command) := by
  refine ⟨⟨rfl, SymbolTable.named?_ofList entries, SymbolTable.startingAt?_ofList entries⟩, ⟨?_, ?_, ?_⟩, ?_, ?_⟩
  · rw [StubTable.entries_ofList, StubTable.firstClaims_eq_unclaimed]
  · rw [StubTable.entries_ofList]
    exact StubTable.nodup_firstClaims stubs
  · exact StubTable.startingAt?_ofList stubs
  · intro format config file image opened
    refine ⟨Image.nameAt?_of_load opened, Image.stubNameAt?_of_load opened, ?_⟩
    intro front symbol back disassembler split earlier
    rw [Image.resolveBy_of_first opened split earlier disassembler]
    exact image.function_placed disassembler symbol
  · intro invocation config image parsed chosen opened
    rw [run_of_parse parsed, Invocation.run_of_load chosen opened]

/-- A stub behind one that was left out is found at its own address, and the binary tells what its lists say. -/
theorem answers_of_boundFile :
    (SymbolTable.ofList [⟨"f", 0, 2⟩, ⟨"f", 4, 2⟩]).named? "f" = some ⟨"f", 0, 2⟩ ∧
    (StubTable.ofList [⟨4, "a"⟩, ⟨4, "b"⟩, ⟨8, "c"⟩]).entries = [⟨4, "a"⟩, ⟨8, "c"⟩] ∧
    (StubTable.ofList [⟨4, "a"⟩, ⟨4, "b"⟩, ⟨8, "c"⟩]).startingAt? 8 = some ⟨8, "c"⟩ ∧
    (BoundSlot.image {}).nameAt? 0 = some "" ∧
    ((∃ code instructions, (BoundSlot.image {}).resolveBy .tables "f" = .ok ⟨"f", 0, 2, code, instructions⟩) ∨
      ∃ fault, (BoundSlot.image {}).resolveBy .tables "f" = .error (.badCode 0 2 fault)) ∧
    run boundFile ["plt", "bound", "0"] = .success "0x0: g\n" := by
  obtain ⟨⟨_, named, _⟩, ⟨kept, _, placed⟩, opened, runs⟩ := answers_by_lists [⟨"f", 0, 2⟩, ⟨"f", 4, 2⟩]
    [⟨4, "a"⟩, ⟨4, "b"⟩, ⟨8, "c"⟩] boundFile ["plt", "bound", "0"]
  obtain ⟨names, _, resolves⟩ := opened none {} (.regular (BoundSlot.bytes true)) _ (BoundSlot.load_bytes {})
  have stubs : (BoundSlot.image {}).stubs.entries = [⟨0, "g"⟩] := StubTable.entries_of_nodup (by decide)
  refine ⟨(named "f").trans rfl, kept.trans (by decide), (placed 8).trans rfl, (names 0).trans rfl, ?_, ?_⟩
  · exact resolves [⟨"", 0, 2⟩] ⟨"f", 0, 2⟩ [] .tables rfl (by decide)
  · have parsed : Invocation.parse ["plt", "bound", "0"] = .ok ⟨.plt 0, "bound", false, none, none, false⟩ := rfl
    have told := runs _ {} (BoundSlot.image {}) parsed rfl (BoundSlot.load_bytes {})
    rw [stubs] at told
    exact told.trans (by decide)

end CommandLine

end ObjectLens
