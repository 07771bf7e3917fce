import Mathlib.Data.List.Pairwise
import Mathlib.Logic.ExistsUnique
import ObjectLens.Proofs.InferredSizes

/-! How the ranges of functions lie whose sizes are inferred. They never overlap, however the regions lie. Where the
regions do not overlap either, the ranges fill each region from its first function on. -/

namespace ObjectLens

namespace Region

variable {regions : List Region} {region : Region} {address : Nat}

/-- No address is in both regions. -/
def Separate (first second : Region) : Prop := ∀ address, first.Contains address → ¬ second.Contains address

instance : Std.Symm Separate where
  symm _ _ separate address inside other := separate address other inside

/-- Among regions that do not overlap an address has one home. -/
private theorem home?_of_separate (separate : regions.Pairwise Separate) (present : region ∈ regions)
    (inside : region.Contains address) : home? regions address = some region := by
  obtain ⟨home, first⟩ := exists_home? present inside
  by_cases same : home = region
  · rw [first, same]
  · have apart := separate.forall (home?_mem first) present same
    exact absurd inside (apart address (home?_contains first))

end Region

/-- The address is one of the function's range. -/
def Symbol.Covers (symbol : Symbol) (address : Nat) : Prop :=
  symbol.address ≤ address ∧ address < symbol.address + symbol.size

namespace FunctionSize

open Region (home? home?_of_separate)

variable {starts others : List Nat} {regions : List Region} {region : Region} {symbols : List Symbol}
  {symbol : Symbol} {address next : Nat}

/-! ### Ends of functions -/

private theorem stopIn_le_start (member : next ∈ starts) (later : address < next) :
    stopIn starts address region ≤ next := by
  unfold stopIn stopBefore
  split
  next none =>
    have low := nextStart?_eq_none_iff.mp none next member
    omega
  next first after =>
    have least := (nextStart?_eq_some_iff.mp after).2.2 next member later
    split
    · exact least
    · omega

/-- A function ends with its region or where another one starts. -/
private theorem stopIn_eq_stop_or_mem (starts : List Nat) (address : Nat) (region : Region) :
    stopIn starts address region = region.stop ∨
      stopIn starts address region ∈ starts ∧ address < stopIn starts address region := by
  unfold stopIn stopBefore
  split
  · exact .inl rfl
  next next after =>
    obtain ⟨member, later, _⟩ := nextStart?_eq_some_iff.mp after
    split
    · exact .inr ⟨member, later⟩
    · exact .inl rfl

/-- A function leaves the starts of all later functions alone. -/
private theorem add_sizeAt_le (regions : List Region) (member : next ∈ starts) (later : address < next) :
    address + sizeAt starts regions address ≤ next := by
  cases home : home? regions address with
  | none =>
    have nothing : sizeAt starts regions address = 0 := sizeAt_eq_zero_iff.mpr (Region.home?_eq_none_iff.mp home)
    rw [nothing]
    exact Nat.le_of_lt later
  | some region =>
    rw [(sizeAt_of_home starts home).2]
    exact stopIn_le_start member later

/-! ### Sizes and the order of the symbols -/

private theorem nextStart?_congr (same : ∀ start, start ∈ starts ↔ start ∈ others) (address : Nat) :
    nextStart? starts address = nextStart? others address := by
  cases after : nextStart? others address with
  | none =>
    apply nextStart?_eq_none_iff.mpr
    intro start member
    exact nextStart?_eq_none_iff.mp after start ((same start).mp member)
  | some next =>
    obtain ⟨member, later, least⟩ := nextStart?_eq_some_iff.mp after
    apply nextStart?_eq_some_iff.mpr
    refine ⟨(same next).mpr member, later, ?_⟩
    intro start listed
    exact least start ((same start).mp listed)

/-- Each symbol has the same size wherever it stands in the list. -/
theorem infer_of_perm {reordered : List Symbol} (perm : reordered.Perm symbols) (regions : List Region) :
    infer reordered regions = reordered.map fun symbol =>
      { symbol with size := sizeAt (symbols.map (·.address)) regions symbol.address } := by
  have same (address : Nat) : nextStart? (reordered.map (·.address)) address =
      nextStart? (symbols.map (·.address)) address :=
    nextStart?_congr (fun _ => (perm.map (·.address)).mem_iff) address
  simp only [infer_eq, sizeAt, same]

theorem infer_infer (symbols : List Symbol) (regions : List Region) :
    infer (infer symbols regions) regions = infer symbols regions := by
  rw [infer_eq (infer symbols regions), map_address_infer, infer_eq symbols, List.map_map]
  rfl

/-! ### Ranges -/

private theorem stop_le_of_mem_infer {first second : Symbol} (listed : first ∈ infer symbols regions)
    (other : second ∈ infer symbols regions) (before : first.address < second.address) :
    first.address + first.size ≤ second.address := by
  rw [size_of_mem_infer listed]
  exact add_sizeAt_le regions (List.mem_map.mpr ⟨second, other, rfl⟩) before

private theorem address_eq_of_covers {first second : Symbol} (listed : first ∈ infer symbols regions)
    (other : second ∈ infer symbols regions) (covers : first.Covers address) (again : second.Covers address) :
    first.address = second.address := by
  obtain ⟨lower, upper⟩ := covers
  obtain ⟨lowerAgain, upperAgain⟩ := again
  rcases Nat.lt_trichotomy first.address second.address with before | same | after
  · have stop := stop_le_of_mem_infer listed other before
    omega
  · exact same
  · have stop := stop_le_of_mem_infer other listed after
    omega

/-- The last start up to an address, if there is one. -/
private theorem exists_lastStart (member : next ∈ starts) (low : next ≤ address) :
    ∃ start ∈ starts, next ≤ start ∧ start ≤ address ∧ ∀ other ∈ starts, other ≤ address → other ≤ start := by
  have listed : next ∈ starts.filter (· ≤ address) := List.mem_filter.mpr ⟨member, decide_eq_true low⟩
  obtain ⟨start, greatest⟩ := Option.isSome_iff_exists.mp (List.isSome_max?_of_mem listed)
  obtain ⟨present, bound⟩ := List.max?_eq_some_iff.mp greatest
  obtain ⟨among, below⟩ := List.mem_filter.mp present
  refine ⟨start, among, bound next listed, of_decide_eq_true below, ?_⟩
  intro other otherListed otherLow
  exact bound other (List.mem_filter.mpr ⟨otherListed, decide_eq_true otherLow⟩)

/-- Where regions do not overlap, the last function that starts up to an address of the region covers it. -/
theorem exists_covering (separate : regions.Pairwise Region.Separate) (present : region ∈ regions)
    (listed : symbol ∈ infer symbols regions) (inside : region.Contains symbol.address)
    (later : symbol.address ≤ address) (before : address < region.stop) :
    ∃ holder ∈ infer symbols regions, holder.Covers address := by
  obtain ⟨start, member, lower, upper, greatest⟩ :=
    exists_lastStart (List.mem_map.mpr ⟨symbol, listed, rfl⟩) later
  obtain ⟨holder, holds, rfl⟩ := List.mem_map.mp member
  refine ⟨holder, holds, upper, ?_⟩
  have contained : region.Contains holder.address := ⟨Nat.le_trans inside.1 lower, Nat.lt_of_le_of_lt upper before⟩
  rw [size_of_mem_infer holds, (sizeAt_of_home _ (home?_of_separate separate present contained)).2]
  -- The function would end at another start only if that one were above the address.
  rcases stopIn_eq_stop_or_mem ((infer symbols regions).map (·.address)) holder.address region with
    whole | ⟨among, above⟩
  · rw [whole]
    exact before
  · by_contra short
    have low := greatest _ among (Nat.le_of_not_lt short)
    omega

/-- Inferring sizes changes nothing else. A function outside of all regions has size zero. Any other one is not empty
and ends with the first region that contains it or at the next higher start of all, whichever comes first. So the size
is a matter of the address; ranges of functions at different addresses never overlap; reordering the symbols reorders
the result; and inferring again changes nothing. Among regions that do not overlap, each address from a function of a
region up to the end of the region is in the range of exactly one start. -/
theorem inferred_ranges_fill_regions (symbols : List Symbol) (regions : List Region) :
    (infer symbols regions).map (fun symbol => (symbol.name, symbol.address)) =
      symbols.map (fun symbol => (symbol.name, symbol.address)) ∧
    (∀ symbol ∈ infer symbols regions,
      ((∀ region ∈ regions, ¬ region.Contains symbol.address) → symbol.size = 0) ∧
      ∀ region, home? regions symbol.address = some region →
        0 < symbol.size ∧ symbol.address + symbol.size ≤ region.stop ∧
        (∀ other ∈ symbols, symbol.address < other.address → symbol.address + symbol.size ≤ other.address) ∧
        (symbol.address + symbol.size = region.stop ∨
          ∃ other ∈ symbols, symbol.address + symbol.size = other.address)) ∧
    (∀ first ∈ infer symbols regions, ∀ second ∈ infer symbols regions, first.address = second.address →
      first.size = second.size) ∧
    (∀ first ∈ infer symbols regions, ∀ second ∈ infer symbols regions, first.address ≠ second.address →
      ∀ address, first.Covers address → ¬ second.Covers address) ∧
    (∀ reordered : List Symbol, reordered.Perm symbols →
      (infer reordered regions).Perm (infer symbols regions) ∧
      ∀ index other : Nat, reordered[index]? = symbols[other]? →
        (infer reordered regions)[index]? = (infer symbols regions)[other]?) ∧
    infer (infer symbols regions) regions = infer symbols regions ∧
    (regions.Pairwise Region.Separate → ∀ region ∈ regions, ∀ symbol ∈ symbols, region.Contains symbol.address →
      ∀ address, symbol.address ≤ address → address < region.stop →
        ∃! start, ∃ holder ∈ infer symbols regions, holder.address = start ∧ holder.Covers address) := by
  have starts := map_address_infer symbols regions
  refine ⟨?_, ?_, ?_, ?_, ?_, infer_infer symbols regions, ?_⟩
  · rw [infer_eq, List.map_map]
    rfl
  · intro symbol listed
    have size := size_of_mem_infer listed
    rw [starts] at size
    refine ⟨?_, ?_⟩
    · intro outside
      rw [size]
      exact sizeAt_eq_zero_iff.mpr outside
    · intro region home
      obtain ⟨positive, stop⟩ := sizeAt_of_home (symbols.map (·.address)) home
      rw [size, stop]
      refine ⟨positive, stopIn_le_stop _ _ _, ?_, ?_⟩
      · intro other member later
        exact stopIn_le_start (List.mem_map.mpr ⟨other, member, rfl⟩) later
      · refine (stopIn_eq_stop_or_mem _ _ _).imp_right ?_
        rintro ⟨member, _⟩
        obtain ⟨other, among, same⟩ := List.mem_map.mp member
        exact ⟨other, among, same.symm⟩
  · intro first listed second other same
    rw [size_of_mem_infer listed, size_of_mem_infer other, same]
  · intro first listed second other differ address covers again
    exact differ (address_eq_of_covers listed other covers again)
  · intro reordered perm
    rw [infer_of_perm perm regions, infer_eq symbols]
    refine ⟨perm.map _, ?_⟩
    intro index other same
    rw [List.getElem?_map, List.getElem?_map, same]
  · intro separate region present symbol member inside address later before
    have reached : symbol.address ∈ (infer symbols regions).map (·.address) := by
      rw [starts]
      exact List.mem_map.mpr ⟨symbol, member, rfl⟩
    obtain ⟨sized, listed, same⟩ := List.mem_map.mp reached
    rw [← same] at inside later
    obtain ⟨holder, holds, covers⟩ := exists_covering separate present listed inside later before
    refine ⟨holder.address, ⟨holder, holds, rfl, covers⟩, ?_⟩
    rintro start ⟨other, among, rfl, again⟩
    exact address_eq_of_covers among holds again covers

/-- Functions in two regions, two of them at one address and one outside of both regions. -/
def aliasedSymbols : List Symbol :=
  [⟨"b", 0x110, 0⟩, ⟨"a", 0x100, 0⟩, ⟨"a_alias", 0x100, 0⟩, ⟨"outside", 0x900, 0⟩, ⟨"c", 0x200, 0⟩]

def aliasedRegions : List Region := [⟨"text", 0x100, 0x120, 0⟩, ⟨"text", 0x200, 0x208, 0⟩]

private theorem infer_aliasedSymbols : infer aliasedSymbols aliasedRegions =
    [⟨"b", 0x110, 0x10⟩, ⟨"a", 0x100, 0x10⟩, ⟨"a_alias", 0x100, 0x10⟩, ⟨"outside", 0x900, 0⟩, ⟨"c", 0x200, 8⟩] := by
  rw [infer_eq]
  decide

/-- The last byte of the first region is in the range that starts at `b`, and in no other one. -/
theorem ranges_of_aliasedSymbols : aliasedRegions.Pairwise Region.Separate ∧
    (∃! start, ∃ holder ∈ infer aliasedSymbols aliasedRegions, holder.address = start ∧ holder.Covers 0x11f) ∧
    ∃ holder ∈ infer aliasedSymbols aliasedRegions, holder.address = 0x110 ∧ holder.Covers 0x11f := by
  have separate : aliasedRegions.Pairwise Region.Separate := by
    simp only [aliasedRegions, List.pairwise_cons, List.mem_singleton, forall_eq, List.not_mem_nil, false_implies,
      implies_true, List.Pairwise.nil, and_true]
    intro address inside other
    have below : address < 0x120 := inside.2
    have above : 0x200 ≤ address := other.1
    omega
  obtain ⟨_, _, _, _, _, _, tiles⟩ := inferred_ranges_fill_regions aliasedSymbols aliasedRegions
  refine ⟨separate, ?_, ?_⟩
  · exact tiles separate ⟨"text", 0x100, 0x120, 0⟩ (by decide) ⟨"a", 0x100, 0⟩ (by decide) (by decide) 0x11f (by decide)
      (by decide)
  · rw [infer_aliasedSymbols]
    exact ⟨⟨"b", 0x110, 0x10⟩, by decide, rfl, by decide, by decide⟩

end FunctionSize

end ObjectLens
