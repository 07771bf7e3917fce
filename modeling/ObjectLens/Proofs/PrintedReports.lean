import ObjectLens.CommandLine.Run
import ObjectLens.Proofs.OpenedImages

/-! What the commands print. Each of them either prints all of one report or stops before its first line: whatever can
fail comes before the first print. -/

namespace ObjectLens.CommandLine

/-! ### Reports as they are printed -/

namespace Report

def linesOrNone (indent : String) (lines : List String) : List String :=
  if lines.isEmpty then [indent ++ "(none)"] else lines.map (indent ++ ·)

private theorem linesOrNone_of_none {α : Type} {items : List α} (indent : String) (told : α → String)
    (none : items.isEmpty = true) : linesOrNone indent (items.map told) = [indent ++ "(none)"] := by
  rw [linesOrNone, if_pos (by rw [List.isEmpty_map]; exact none)]

private theorem linesOrNone_of_some {α : Type} {items : List α} (indent : String) (told : α → String)
    (some : ¬ items.isEmpty = true) :
    linesOrNone indent (items.map told) = items.map fun item => indent ++ told item := by
  rw [linesOrNone, if_neg (by rw [List.isEmpty_map]; exact some), List.map_map]
  rfl

def lines : Report → List String
  | .info path format arch functionCount stubCount regions digest =>
    ["Binary: " ++ path, "  Format: " ++ format.title, "  Arch: " ++ (arch.map Arch.name).getD "unknown",
      "  Functions: " ++ toString functionCount, "  Stubs: " ++ toString stubCount, "  Code regions:"] ++
    linesOrNone "    " (regions.map regionLine) ++ ["  SHA-256: " ++ digest]
  | .function found => functionLine found :: found.instructions.map ("  " ++ ·.render)
  | .name address found => [Hex.word address ++ ": " ++ found.getD "(none)"]
  | .symbols entries => s!"Functions ({entries.length}):" :: linesOrNone "  " (entries.map symbolLine)
  | .stubs entries => s!"Stubs ({entries.length}):" :: linesOrNone "  " (entries.map stubLine)

def text (report : Report) : String := String.join (report.lines.map (· ++ "\n"))

def render (asJson : Bool) (report : Report) : String := if asJson then report.json.pretty ++ "\n" else report.text

/-- The answer to a question about an opened binary. -/
def ofCommand (path : String) (image : Image) : Command → Except QueryError Report
  | .info => .ok (.ofImage path image)
  | .function wanted => (image.resolve wanted).map .function
  | .name address => .ok (.name address (image.nameAt? address))
  | .plt address => .ok (.name address (image.stubNameAt? address))
  | .symbols => .ok (.symbols image.symbols.entries)
  | .stubs => .ok (.stubs image.stubs.entries)

end Report

/-! ### Parts of the program -/

/-- A part of the program comes to its end with a value, and has printed a text. -/
def Gives {α : Type} (part : Printing α) (value : α) (text : String) : Prop :=
  ∀ before, part.run before = (.ok value, before ++ text)

/-- A part of the program prints a text and comes to its end. -/
abbrev Prints (part : Printing Unit) (text : String) : Prop := Gives part () text

/-- A part of the program stops and has printed nothing. -/
def Stops {α : Type} (part : Printing α) (reason : Break) : Prop := ∀ before, part.run before = (.error reason, before)

section

variable {α β : Type} {part : Printing α} {next : α → Printing β} {value : α} {result : β} {text more : String}
  {reason : Break}

theorem gives_pure (value : α) : Gives (pure value) value "" := by
  intro before
  rw [String.append_empty]
  rfl

theorem stops_throw (reason : Break) : Stops (throw reason : Printing α) reason := fun _ => rfl

private theorem Gives.bind (first : Gives part value text) (rest : Gives (next value) result more) :
    Gives (part >>= next) result (text ++ more) := by
  intro before
  have run : (part >>= next).run before = (next value).run (before ++ text) := by
    show (ExceptT.bindCont next (part.run before).1) (part.run before).2 = _
    rw [first before]
    rfl
  rw [run, rest, String.append_assoc]

/-- What prints nothing has no part in how the rest comes out. -/
private theorem run_bind_of_silent (first : Gives part value "") (before : String) :
    (part >>= next).run before = (next value).run before := by
  show (ExceptT.bindCont next (part.run before).1) (part.run before).2 = _
  rw [first before, String.append_empty]
  rfl

theorem Gives.silent_bind (first : Gives part value "") (rest : Gives (next value) result more) :
    Gives (part >>= next) result more := by
  intro before
  rw [run_bind_of_silent first, rest]

theorem Gives.bind_stops (first : Gives part value "") (rest : Stops (next value) reason) :
    Stops (part >>= next) reason := by
  intro before
  rw [run_bind_of_silent first, rest]

theorem Stops.bind (first : Stops part reason) : Stops (part >>= next) reason := by
  intro before
  show (ExceptT.bindCont next (part.run before).1) (part.run before).2 = _
  rw [first before]
  rfl

end

/-! ### Lines -/

/-- A part of the program prints some lines and comes to its end. -/
def PrintsLines (part : Printing Unit) (lines : List String) : Prop :=
  Prints part (String.join (lines.map (· ++ "\n")))

namespace PrintsLines

variable {α : Type} {part rest : Printing Unit} {lines more : List String}

private theorem line (line : String) : PrintsLines (printLine line) [line] := by
  intro before
  simp only [List.map_cons, List.map_nil, String.join_cons, String.join_nil, String.append_empty]
  rfl

private theorem nothing : PrintsLines (pure ()) [] := gives_pure ()

theorem andThen (first : PrintsLines part lines) (second : PrintsLines rest more) :
    PrintsLines (part >>= fun _ => rest) (lines ++ more) := by
  rw [PrintsLines, List.map_append, String.join_append]
  exact Gives.bind first second

/-- A loop that prints a line for each item. -/
theorem forEach (line : α → String) (items : List α) : PrintsLines
    (forIn items PUnit.unit fun item _ => do
      printLine (line item)
      return ForInStep.yield PUnit.unit) (items.map line) := by
  induction items with
  | nil => exact nothing
  | cons item others ih =>
    rw [List.forIn_cons]
    exact (PrintsLines.line (line item)).andThen ih

/-- A loop at the end of a part of the program. -/
private theorem loop (line : α → String) (items : List α) :
    PrintsLines (do for item in items do printLine (line item)) (items.map line) := by
  have done := (forEach line items).andThen nothing
  rw [List.append_nil] at done
  exact done

end PrintsLines

open PrintsLines (forEach line loop)

section

variable {files : String → FileState} {path : String} {config : Config} {json : Bool} {image : Image}

private theorem gives_openBinary (opened : Image.load none config (files path) = .ok image) :
    Gives (openBinary files path config) image "" := by
  rw [openBinary, opened]
  exact gives_pure image

theorem stops_openBinary_aborted (breaks : Image.load none config (files path) = .error .aborted) :
    Stops (openBinary files path config) .aborted := by
  rw [openBinary, breaks]
  exact stops_throw _

theorem stops_openBinary_refused {cause : LoadError}
    (unopened : Image.load none config (files path) = .error (.refused cause)) :
    Stops (openBinary files path config) (.failed (.load path cause)) := by
  rw [openBinary, unopened]
  exact stops_throw _

/-- A report is printed as JSON or line by line. -/
private theorem prints_render (report : Report) {lines : Printing Unit} (told : PrintsLines lines report.lines) :
    Prints (if json then printJson report.json else lines) (report.render json) := by
  cases json with
  | false => exact told
  | true => exact fun before => rfl

theorem prints_infoCommand (opened : Image.load none config (files path) = .ok image) :
    Prints (infoCommand files path config json) ((Report.ofImage path image).render json) := by
  refine (gives_openBinary opened).silent_bind (prints_render (.ofImage path image) ?_)
  have digest := line ("  SHA-256: " ++ Sha256.hex image.bytes)
  have regions := forEach (fun region => "    " ++ Report.regionLine region) image.regions
  refine (line _).andThen ((line _).andThen ((line _).andThen ((line _).andThen ((line _).andThen
    ((line _).andThen ?_)))))
  show PrintsLines _ (Report.linesOrNone "    " (image.regions.map Report.regionLine) ++ [_])
  by_cases none : image.regions.isEmpty = true
  · rw [Report.linesOrNone_of_none "    " Report.regionLine none]
    rw [List.isEmpty_iff.mp none] at regions ⊢
    exact (line _).andThen (regions.andThen digest)
  · rw [Report.linesOrNone_of_some "    " Report.regionLine none]
    simp only [none]
    exact regions.andThen digest

theorem prints_functionCommand {wanted : String} {found : Function}
    (opened : Image.load none config (files path) = .ok image) (known : image.resolve wanted = .ok found) :
    Prints (functionCommand files path config json wanted) ((Report.function found).render json) := by
  have answer : Gives (resolved image wanted) found "" := by
    rw [resolved, known]
    exact gives_pure found
  have text := (line (Report.functionLine found)).andThen (loop ("  " ++ ·.render) found.instructions)
  exact (gives_openBinary opened).silent_bind (answer.silent_bind (prints_render (.function found) text))

theorem stops_functionCommand {wanted : String} {error : QueryError}
    (opened : Image.load none config (files path) = .ok image) (unknown : image.resolve wanted = .error error) :
    Stops (functionCommand files path config json wanted) (.failed (.query error)) := by
  have stops : Stops (resolved image wanted) (.failed (.query error)) := by
    rw [resolved, unknown]
    exact stops_throw _
  exact (gives_openBinary opened).bind_stops stops.bind

theorem prints_nameCommand {address : Nat} (opened : Image.load none config (files path) = .ok image) :
    Prints (nameCommand files path config json address)
      ((Report.name address (image.nameAt? address)).render json) :=
  (gives_openBinary opened).silent_bind (prints_render (.name address _) (line _))

theorem prints_pltCommand {address : Nat} (opened : Image.load none config (files path) = .ok image) :
    Prints (pltCommand files path config json address)
      ((Report.name address (image.stubNameAt? address)).render json) :=
  (gives_openBinary opened).silent_bind (prints_render (.name address _) (line _))

/-- A list is printed below its heading, or it is said that there is nothing. -/
private theorem lines_of_list {α : Type} (heading : String) (told : α → String) (items : List α) : PrintsLines
    (do
      printLine heading
      if items.isEmpty then
        printLine "  (none)"
      else
        for item in items do
          printLine ("  " ++ told item)) (heading :: Report.linesOrNone "  " (items.map told)) := by
  have all := loop (fun item => "  " ++ told item) items
  by_cases none : items.isEmpty = true
  · rw [Report.linesOrNone_of_none "  " told none, if_pos none]
    exact (line heading).andThen (line _)
  · rw [Report.linesOrNone_of_some "  " told none, if_neg none]
    exact (line heading).andThen all

theorem prints_symbolsCommand (opened : Image.load none config (files path) = .ok image) :
    Prints (symbolsCommand files path config json) ((Report.symbols image.symbols.entries).render json) :=
  (gives_openBinary opened).silent_bind (prints_render (.symbols _) (lines_of_list _ _ _))

theorem prints_stubsCommand (opened : Image.load none config (files path) = .ok image) :
    Prints (stubsCommand files path config json) ((Report.stubs image.stubs.entries).render json) :=
  (gives_openBinary opened).silent_bind (prints_render (.stubs _) (lines_of_list _ _ _))

end

end ObjectLens.CommandLine
