import ObjectLens.Proofs.CodeRegions

/-! Sizes of functions in files that record none. A function reaches up to the next start of a function in the region
that it starts in, and the region that it starts in is the one that its code is read from. -/

namespace ObjectLens

namespace Region

variable {regions : List Region} {region : Region} {first last : Nat}

/-- The region that an address belongs to: the first one that contains it. -/
def home? (regions : List Region) (address : Nat) : Option Region :=
  regions.find? fun region => region.Contains address

theorem home?_contains (home : home? regions first = some region) : region.Contains first := by
  have inside := List.find?_some home
  exact of_decide_eq_true inside

theorem home?_mem (home : home? regions first = some region) : region ∈ regions := List.mem_of_find?_eq_some home

theorem home?_eq_none_iff : home? regions first = none ↔ ∀ region ∈ regions, ¬ region.Contains first := by
  simp only [home?, List.find?_eq_none, decide_eq_true_eq]

theorem exists_home? (present : region ∈ regions) (inside : region.Contains first) :
    ∃ home, home? regions first = some home := by
  apply Option.ne_none_iff_exists'.mp
  intro homeless
  exact home?_eq_none_iff.mp homeless region present inside

theorem Encloses.contains (enclosed : region.Encloses first last) : region.Contains first := by
  obtain ⟨lower, upper, proper⟩ := enclosed
  exact ⟨lower, Nat.lt_of_lt_of_le proper upper⟩

/-- The home of an address is the first region around a range if it is around the range and all other regions around
the range contain the address as well. -/
theorem find?_encloses_of_home {address : Nat} (home : home? regions address = some region)
    (enclosed : region.Encloses first last)
    (contains : ∀ other ∈ regions, other.Encloses first last → other.Contains address) :
    regions.find? (fun region => region.Encloses first last) = some region := by
  obtain ⟨_, front, back, rfl, before⟩ := List.find?_eq_some_iff_append.mp home
  refine List.find?_eq_some_iff_append.mpr ⟨decide_eq_true enclosed, front, back, rfl, ?_⟩
  intro other member
  have outside := before other member
  simp only [Bool.not_eq_true', decide_eq_false_iff_not] at outside ⊢
  exact fun around => outside (contains other (List.mem_append_left _ member) around)

end Region

namespace FunctionSize

open Region (home? home?_contains home?_eq_none_iff)

variable {starts : List Nat} {regions : List Region} {region : Region} {symbols : List Symbol} {symbol : Symbol}
  {address next : Nat}

/-- The next start of a function after an address, in whatever order the starts are listed. -/
def nextStart? (starts : List Nat) (address : Nat) : Option Nat :=
  (starts.filter (address < ·)).min?

/-- The end of a function that starts at an address inside of a region. -/
def stopIn (starts : List Nat) (address : Nat) (region : Region) : Nat :=
  stopBefore (nextStart? starts address) region

/-- The size of a function that starts at an address, by the starts of all functions. -/
def sizeAt (starts : List Nat) (regions : List Region) (address : Nat) : Nat :=
  sizeBefore (nextStart? starts address) regions address

/-- The next start of a function that is in a region as well. -/
def nextStartIn? (starts : List Nat) (region : Region) (address : Nat) : Option Nat :=
  nextStart? (starts.filter fun start => region.Contains start) address

theorem nextStart?_eq_some_iff : nextStart? starts address = some next ↔
    next ∈ starts ∧ address < next ∧ ∀ other ∈ starts, address < other → next ≤ other := by
  simp only [nextStart?, List.min?_eq_some_iff, List.mem_filter, decide_eq_true_eq, and_assoc, and_imp]

theorem nextStart?_eq_none_iff : nextStart? starts address = none ↔ ∀ other ∈ starts, other ≤ address := by
  simp only [nextStart?, List.min?_eq_none_iff, List.filter_eq_nil_iff, decide_eq_true_eq, Nat.not_lt]

private theorem nextStartIn?_eq_some_iff : nextStartIn? starts region address = some next ↔
    (next ∈ starts ∧ region.Contains next) ∧ address < next ∧
      ∀ other ∈ starts, region.Contains other → address < other → next ≤ other := by
  simp only [nextStartIn?, nextStart?_eq_some_iff, List.mem_filter, decide_eq_true_eq, and_imp]

private theorem nextStartIn?_eq_none_iff : nextStartIn? starts region address = none ↔
    ∀ other ∈ starts, region.Contains other → other ≤ address := by
  simp only [nextStartIn?, nextStart?_eq_none_iff, List.mem_filter, decide_eq_true_eq, and_imp]

/-- Above the start of a region, the next start of all is in the region if it is in front of the region's end, and
else there is none in the region. -/
theorem stopIn_eq (above : region.start ≤ address) :
    stopIn starts address region = (nextStartIn? starts region address).getD region.stop := by
  unfold stopIn stopBefore
  cases after : nextStart? starts address with
  | none =>
    have low := nextStart?_eq_none_iff.mp after
    have none : nextStartIn? starts region address = none :=
      nextStartIn?_eq_none_iff.mpr fun other member _ => low other member
    rw [none, Option.getD_none]
  | some next =>
    obtain ⟨member, later, least⟩ := nextStart?_eq_some_iff.mp after
    by_cases inside : next < region.stop
    · have same : nextStartIn? starts region address = some next := by
        refine nextStartIn?_eq_some_iff.mpr ⟨⟨member, by omega, inside⟩, later, ?_⟩
        exact fun other otherMember _ otherLater => least other otherMember otherLater
      rw [same, Option.getD_some]
      exact if_pos inside
    · have none : nextStartIn? starts region address = none := by
        refine nextStartIn?_eq_none_iff.mpr fun other otherMember contained => Nat.le_of_not_lt fun otherLater => ?_
        have bound := least other otherMember otherLater
        exact inside (Nat.lt_of_le_of_lt bound contained.2)
      rw [none, Option.getD_none]
      exact if_neg inside

theorem stopIn_le_stop (starts : List Nat) (address : Nat) (region : Region) :
    stopIn starts address region ≤ region.stop := by
  unfold stopIn stopBefore
  split
  · exact Nat.le_refl _
  · split
    next inside => exact Nat.le_of_lt inside
    next => exact Nat.le_refl _

theorem lt_stopIn (starts : List Nat) (inside : region.Contains address) :
    address < stopIn starts address region := by
  unfold stopIn stopBefore
  split
  · exact inside.2
  next next after =>
    split
    · exact (nextStart?_eq_some_iff.mp after).2.1
    · exact inside.2

/-- Inside of a region a function is at least one byte long and ends with the region at the latest. -/
theorem sizeAt_of_home (starts : List Nat) (home : home? regions address = some region) :
    0 < sizeAt starts regions address ∧ address + sizeAt starts regions address = stopIn starts address region := by
  have later := lt_stopIn starts (home?_contains home)
  have same : sizeAt starts regions address = stopIn starts address region - address := by
    rw [home?] at home
    rw [sizeAt, sizeBefore, home]
    rfl
  omega

theorem sizeAt_eq_zero_iff : sizeAt starts regions address = 0 ↔ ∀ region ∈ regions, ¬ region.Contains address := by
  rw [← home?_eq_none_iff]
  cases home : home? regions address with
  | none =>
    rw [home?] at home
    rw [sizeAt, sizeBefore, home]
    simp
  | some region =>
    have positive := (sizeAt_of_home starts home).1
    simp [Nat.ne_of_gt positive]

/-! ### The index of the starts -/

private theorem find?_loop {α : Type} [BEq α] [LawfulBEq α] (wanted : α → Bool) (first : α) (others kept : List α) :
    (List.eraseRepsBy.loop (· == ·) first others kept).find? wanted =
      (kept.reverse ++ first :: others).find? wanted := by
  induction others generalizing first kept with
  | nil => simp [List.eraseRepsBy.loop]
  | cons other others ih =>
    rw [List.eraseRepsBy.loop]
    split
    next again =>
      have same := eq_of_beq again
      rw [ih, same]
      cases here : wanted other <;> simp [List.find?_append, here]
    next => rw [ih, List.reverse_cons, List.append_assoc, List.singleton_append]

/-- Leaving out repetitions does not change what is found first. -/
private theorem find?_eraseReps {α : Type} [BEq α] [LawfulBEq α] (wanted : α → Bool) (items : List α) :
    items.eraseReps.find? wanted = items.find? wanted := by
  cases items with
  | nil => rfl
  | cons first others => exact find?_loop wanted first others []

/-- In ascending order the first start above an address is the least one. -/
theorem firstAbove?_ascending (starts : List Nat) (address : Nat) :
    firstAbove? (ascending starts) address = nextStart? starts address := by
  have sorted : starts.mergeSort.Pairwise fun first second => decide (first ≤ second) = true := by
    apply List.pairwise_mergeSort
    · intro first second third low high
      simp only [decide_eq_true_eq] at low high ⊢
      exact Nat.le_trans low high
    · intro first second
      simpa only [Bool.or_eq_true, decide_eq_true_eq] using Nat.le_total first second
  have listed (start : Nat) : start ∈ starts.mergeSort ↔ start ∈ starts := List.mem_mergeSort
  rw [firstAbove?, ← List.find?_eq_getElem?_findIdx, ascending, find?_eraseReps]
  symm
  cases found : starts.mergeSort.find? (address < ·) with
  | none =>
    apply nextStart?_eq_none_iff.mpr
    intro other member
    have low := List.find?_eq_none.mp found other ((listed other).mpr member)
    simpa using low
  | some next =>
    obtain ⟨above, front, back, split, before⟩ := List.find?_eq_some_iff_append.mp found
    apply nextStart?_eq_some_iff.mpr
    refine ⟨(listed next).mp (List.mem_of_find?_eq_some found), of_decide_eq_true above, ?_⟩
    intro other member higher
    rw [split, List.pairwise_append, List.pairwise_cons] at sorted
    rw [← listed, split, List.mem_append, List.mem_cons] at member
    rcases member with low | rfl | high
    · have lower := before other low
      simp [higher] at lower
    · exact Nat.le_refl _
    · exact of_decide_eq_true (sorted.2.1.1 other high)

/-- Each symbol is given the size that its address, all starts, and the regions tell. -/
theorem infer_eq (symbols : List Symbol) (regions : List Region) : infer symbols regions =
    symbols.map fun symbol => { symbol with size := sizeAt (symbols.map (·.address)) regions symbol.address } := by
  simp only [infer, firstAbove?_ascending, sizeAt]

theorem map_address_infer (symbols : List Symbol) (regions : List Region) :
    (infer symbols regions).map (·.address) = symbols.map (·.address) := by
  simp only [infer, List.map_map, Function.comp_def]

/-- Sizes are inferred from addresses alone, so the symbols with their sizes tell them again. -/
theorem size_of_mem_infer (member : symbol ∈ infer symbols regions) :
    symbol.size = sizeAt ((infer symbols regions).map (·.address)) regions symbol.address := by
  rw [map_address_infer]
  rw [infer_eq] at member
  obtain ⟨bare, _, rfl⟩ := List.mem_map.mp member
  rfl

end FunctionSize

private theorem Pe.File.functions_contained {file : File} {regions : List Region} {symbol : Symbol}
    (member : symbol ∈ file.functions regions) : ∃ region ∈ regions, region.Contains symbol.address := by
  obtain ⟨found, listed, named⟩ := List.mem_filterMap.mp member
  obtain ⟨_, _, rfl⟩ := Option.map_eq_some_iff.mp named
  have inside := (List.mem_filter.mp listed).2
  simp only [Bool.and_eq_true, List.any_eq_true, decide_eq_true_eq] at inside
  exact inside.2

namespace Image

variable {format : Option Format} {config : Config} {bytes : Bytes} {image : Image} {symbol : Symbol}

def starts (image : Image) : List Nat := image.symbols.entries.map (·.address)

/-- The sizes of the functions are those that their addresses and the regions tell. -/
def InfersSizes (image : Image) : Prop :=
  ∀ symbol ∈ image.symbols.entries,
    symbol.size = FunctionSize.sizeAt image.starts image.regions symbol.address

/-- Only ELF files record the sizes of functions. -/
theorem load_infersSizes (opened : load format config (.regular bytes) = .ok image) (unsized : image.format ≠ .elf) :
    image.InfersSizes := by
  obtain ⟨found, reads, rfl⟩ := load_reads opened
  intro symbol member
  have inferred : ∃ symbols, found.symbols = FunctionSize.infer symbols found.regions := by
    cases reads with
    | elf read => exact absurd rfl unsized
    | machO read usable =>
      obtain ⟨_, _, _, _, _, _, symbols⟩ := MachO.File.contents?_eq_ok usable
      exact ⟨_, symbols⟩
    | pe read => exact ⟨_, rfl⟩
  obtain ⟨symbols, same⟩ := inferred
  have listed : symbol ∈ FunctionSize.infer symbols found.regions := same ▸ member
  have size := FunctionSize.size_of_mem_infer listed
  rw [← same] at size
  exact size

/-- Exports outside of all regions are no functions. -/
theorem load_home_of_pe (opened : load format config (.regular bytes) = .ok image) (pe : image.format = .pe)
    (member : symbol ∈ image.symbols.entries) : ∃ region ∈ image.regions, region.Contains symbol.address := by
  obtain ⟨found, reads, rfl⟩ := load_reads opened
  cases reads with
  | elf read => cases pe
  | machO read usable =>
    have machO := MachO.File.contents?_format usable
    rw [show found.format = .pe from pe] at machO
    cases machO
  | pe read =>
    obtain ⟨bare, listed, rfl⟩ := List.mem_map.mp member
    have inside := Pe.File.functions_contained listed
    exact inside

end Image

end ObjectLens
