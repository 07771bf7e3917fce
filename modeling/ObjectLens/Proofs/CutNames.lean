import ObjectLens.Proofs.FixtureFunctions
import ObjectLens.Proofs.FixtureRoom

/-! Names that start too far behind in their table. An entry tells the start of its name in four bytes, so a name behind
four gigabytes of others is told by what is left of its place, and read from there. -/

namespace ObjectLens.Fixture

open Elf
open Bytes (ofList)

/-- A name of so many bytes. -/
def longName (count : Nat) : String := String.ofList (List.replicate count 'a')

def longNamed (count : Nat) : Fixture.Symbol := ⟨longName count, 0x1000, 2, .function, false⟩

def shortNamed : Fixture.Symbol := ⟨"b", 0x1010, 2, .function, false⟩

/-- A function with a long name, and one whose name is stored behind that name. -/
def behindLongName (count : Nat) : Fixture where
  symbols := [longNamed count, shortNamed]

def longNameSteps (count : Nat) : List Step := (behindLongName count).symbols.map .symbol

section

variable {count : Nat}

theorem applyAll_longNameSteps (count : Nat) : applyAll {} (longNameSteps count) = .ok (behindLongName count) := rfl

theorem fits_longNameSteps : ∀ step ∈ longNameSteps count, step.Fits := by
  intro step member
  simp only [longNameSteps, behindLongName, List.map_cons, List.map_nil, List.mem_cons, List.not_mem_nil, or_false]
    at member
  have first : (0x1000 : Nat) < Word.limit ∧ (2 : Nat) < Word.limit := by decide
  have second : (0x1010 : Nat) < Word.limit ∧ (2 : Nat) < Word.limit := by decide
  rcases member with rfl | rfl
  · exact first
  · exact second

private theorem zeroFree_longName (count : Nat) : ZeroFree (longName count) := by
  rw [ZeroFree, longName, view_toUTF8_ofList, List.mem_flatMap]
  rintro ⟨char, member, zero⟩
  have plain := List.eq_of_mem_replicate member
  rw [eq_zero_of_mem_utf8EncodeChar zero] at plain
  exact absurd plain (by decide)

theorem zeroFree_behindLongName : ∀ found ∈ (behindLongName count).symbols, ZeroFree found.name := by
  intro found member
  simp only [behindLongName, List.mem_cons, List.not_mem_nil, or_false] at member
  rcases member with rfl | rfl
  · exact zeroFree_longName count
  · decide

private theorem length_longName (count : Nat) : (Bytes.view (longName count).toUTF8).length = count := by
  have single : ∀ char ∈ List.replicate count 'a', (String.utf8EncodeChar char).length = 1 := by
    intro char member
    rw [List.eq_of_mem_replicate member]
    decide
  rw [longName, view_toUTF8_ofList, length_flatMap_of_uniform single, List.length_replicate, Nat.one_mul]

private theorem longName_ne_empty (some : 0 < count) : longName count ≠ "" := by
  intro empty
  have length := length_longName count
  rw [empty] at length
  have none : (Bytes.view "".toUTF8).length = 0 := by decide
  omega

/-- The second name starts behind the first one and the two zero bytes around it. -/
private theorem nameOffset_behindLongName (count : Nat) :
    nameOffset ((behindLongName count).symbols.map (·.name)) 1 = count + 2 := by
  have front : nameOffset ((behindLongName count).symbols.map (·.name)) 1 =
      (0 :: (Bytes.view (longName count).toUTF8 ++ [0] ++ [])).length := rfl
  rw [front, List.append_nil, List.length_cons, List.length_append, length_longName]
  rfl

private theorem length_symbolNameBlock (count : Nat) :
    (behindLongName count).symbolNameBlock.content.length = count + 4 := by
  have content : (behindLongName count).symbolNameBlock.content =
      0 :: (Bytes.view (longName count).toUTF8 ++ [0] ++ (Bytes.view "b".toUTF8 ++ [0] ++ [])) := rfl
  have short : (Bytes.view "b".toUTF8).length = 1 := by decide
  simp only [content, List.length_cons, List.length_append, length_longName, short, List.length_nil]

/-! ### The file -/

private theorem textFits_behindLongName : (behindLongName count).TextFits := Nat.zero_le _

private theorem buildable_behindLongName : (behindLongName count).Buildable := by
  have dynamic : (behindLongName count).dynamicBlock = dynamicBlock {} := rfl
  refine buildable_iff.mpr ⟨?_, ?_⟩
  · rw [dynamic]
    decide
  · exact Nat.zero_le _

private theorem extent_behindLongName (count : Nat) : Block.extent (behindLongName count).blocks < count + 0x10000 := by
  have buildable : (behindLongName count).Buildable := buildable_behindLongName
  have bound := extent_le textFits_behindLongName buildable
  have names : (storedNames ((behindLongName count).symbols.map (·.name))).length = count + 4 :=
    length_symbolNameBlock count
  have symbols : (behindLongName count).symbols.length = 2 := rfl
  omega

theorem built_behindLongName (small : count < 0x1000000000000) :
    (behindLongName count).Built (ofList (Block.assemble (behindLongName count).blocks)) := by
  refine built_of_extent textFits_behindLongName buildable_behindLongName ?_
  refine Nat.lt_trans (extent_behindLongName count) ?_
  rw [show Word.count 63 = 0x8000000000000000 from rfl]
  omega

/-! ### The functions -/

/-- The second function has lost its name: what is left of its place is the place of the empty name. -/
theorem functions_behindLongName (large : count + 2 = 0x100000000) :
    (behindLongName count).file.functions = [⟨longName count, 0x1000, 2⟩] := by
  have listed : (behindLongName count).symbols.map (·.name) = [longName count, "b"] := rfl
  have offset := nameOffset_behindLongName count
  rw [listed] at offset
  have front : ((longNamed count).entry (nameOffset [longName count, "b"] 0)).cut.function?
      ⟨ofList (storedNames [longName count, "b"])⟩ = some ⟨longName count, 0x1000, 2⟩ := by
    have words : (0x1000 : Nat) < Word.limit ∧ (2 : Nat) < Word.limit := by decide
    have named : [longName count, "b"][0]? = some (longNamed count).name := rfl
    rw [function?_entry named (zeroFree_longName count) (show 1 < 0x100000000 by decide) words]
    exact if_pos ⟨rfl, longName_ne_empty (by omega)⟩
  have back : (shortNamed.entry (nameOffset [longName count, "b"] 1)).cut.function?
      ⟨ofList (storedNames [longName count, "b"])⟩ = none := by
    have place : (shortNamed.entry (nameOffset [longName count, "b"] 1)).cut.name = 0 := by
      show nameOffset [longName count, "b"] 1 % 0x100000000 = 0
      rw [offset, large]
    rw [SymbolEntry.function?, StringTable.properName?, place, name?_storedNames_zero]
    simp
  rw [functions_file_of_kept rfl listed]
  show [((longNamed count).entry (nameOffset [longName count, "b"] 0)).cut,
    (shortNamed.entry (nameOffset [longName count, "b"] 1)).cut].filterMap _ = _
  rw [List.filterMap_cons, front, List.filterMap_cons, back, List.filterMap_nil]

theorem mem_functions_behindLongName (count : Nat) : ⟨"b", 0x1010, 2⟩ ∈ (behindLongName count).functions :=
  List.mem_filterMap.mpr ⟨shortNamed, List.mem_cons_of_mem _ (List.mem_singleton.mpr rfl), rfl⟩

end

end ObjectLens.Fixture
