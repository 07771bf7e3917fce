import Mathlib.Data.List.Induction
import ObjectLens.Symbol

/-! Looking something up in an index is the same as reading the entries from front to back. An index of symbols knows
the first position of every key; the index of stubs is kept in step with the stubs that are kept, so its positions
count these and not those that were read. -/

namespace ObjectLens

private theorem foldl_insertIfNew {κ α : Type} [BEq κ] [LawfulBEq κ] [Hashable κ] [LawfulHashable κ]
    (key : α → κ) (entries : List α) (start : Nat) (index : Std.HashMap κ Nat) (wanted : κ) :
    ((entries.zipIdx start).foldl (fun index (entry, position) => index.insertIfNew (key entry) position)
        index)[wanted]? =
      index[wanted]?.or ((entries.findIdx? (key · == wanted)).map (· + start)) := by
  induction entries generalizing start index with
  | nil => simp
  | cons entry others ih =>
    rw [List.zipIdx_cons, List.foldl_cons, ih, Std.HashMap.getElem?_insertIfNew, List.findIdx?_cons]
    by_cases same : key entry = wanted
    · subst same
      by_cases known : key entry ∈ index <;> simp [known]
    · have other : (key entry == wanted) = false := beq_eq_false_iff_ne.mpr same
      have shifted (position : Nat) : position + 1 + start = position + (start + 1) := by omega
      simp [other, Option.map_map, Function.comp_def, shifted]

/-- The index holds the position at which a search from the front ends, and nothing for keys that no entry has. -/
private theorem getElem?_firstPositions {κ α : Type} [BEq κ] [LawfulBEq κ] [Hashable κ] [LawfulHashable κ]
    (key : α → κ) (entries : List α) (wanted : κ) :
    (firstPositions key entries)[wanted]? = entries.findIdx? (key · == wanted) := by
  simp [firstPositions, foldl_insertIfNew]

namespace SymbolTable

theorem named?_ofList (entries : List Symbol) (name : String) :
    (ofList entries).named? name = entries.find? (·.name == name) := by
  simp only [named?, ofList, getElem?_firstPositions, List.find?_eq_bind_findIdx?_getElem?]

theorem startingAt?_ofList (entries : List Symbol) (address : Nat) :
    (ofList entries).startingAt? address = entries.find? (·.address == address) := by
  simp only [startingAt?, ofList, getElem?_firstPositions, List.find?_eq_bind_findIdx?_getElem?]

end SymbolTable

namespace StubTable

variable {table : StubTable} {stubs : List Stub}

private theorem mem_map_address_firstClaims {address : Nat} :
    address ∈ (firstClaims stubs).map (·.address) ↔ address ∈ stubs.map (·.address) := by
  induction stubs with
  | nil => rfl
  | cons stub others ih =>
    by_cases same : address = stub.address
    · simp [firstClaims, same]
    · rw [firstClaims, List.map_cons, List.map_cons, List.mem_cons, List.mem_cons, ← ih]
      simp only [same, false_or, List.mem_map, List.mem_filter]
      grind

/-- A stub at the end is kept if its address is new. -/
private theorem firstClaims_concat (stubs : List Stub) (stub : Stub) : firstClaims (stubs ++ [stub]) =
    firstClaims stubs ++ if stub.address ∈ stubs.map (·.address) then [] else [stub] := by
  induction stubs with
  | nil => rfl
  | cons first others ih =>
    rw [List.cons_append, firstClaims, ih, firstClaims, List.filter_append, List.cons_append]
    by_cases known : stub.address ∈ others.map (·.address)
    · simp [known]
    · by_cases same : stub.address = first.address <;> simp [known, same]

/-- The index of a table leads to the entry of each address, and only there. -/
def Indexed (table : StubTable) : Prop :=
  ∀ address, table.byAddress[address]? = table.entries.findIdx? (·.address == address)

private theorem Indexed.mem_iff (indexed : table.Indexed) {address : Nat} :
    address ∈ table.byAddress ↔ address ∈ table.entries.map (·.address) := by
  rw [Std.HashMap.mem_iff_isSome_getElem?, indexed address, List.findIdx?_isSome]
  simp

theorem Indexed.startingAt? (indexed : table.Indexed) (address : Nat) :
    table.startingAt? address = table.entries.find? (·.address == address) := by
  rw [StubTable.startingAt?, indexed address, List.find?_eq_bind_findIdx?_getElem?]

/-- A claim keeps the index in step: the position of a new stub is the number of stubs that were kept before. -/
private theorem Indexed.claim (indexed : table.Indexed) (stub : Stub) : (table.claim stub).Indexed := by
  unfold StubTable.claim
  split
  next => exact indexed
  next free =>
    intro address
    rw [Std.HashMap.getElem?_insert, List.findIdx?_append, ← indexed address]
    by_cases same : stub.address = address
    · subst same
      have unknown : table.byAddress[stub.address]? = none := Std.HashMap.getElem?_eq_none free
      simp [unknown]
    · simp [same]

private theorem ofList_nil : ofList [] = ⟨[], ∅⟩ := by
  rw [ofList, List.foldl_nil]

private theorem ofList_concat (stubs : List Stub) (stub : Stub) :
    ofList (stubs ++ [stub]) = (ofList stubs).claim stub := by
  rw [ofList, ofList, List.foldl_append, List.foldl_cons, List.foldl_nil]

theorem indexed_ofList (stubs : List Stub) : (ofList stubs).Indexed := by
  induction stubs using List.reverseRecOn with
  | nil =>
    rw [ofList_nil]
    exact fun _ => Std.HashMap.getElem?_empty
  | append_singleton front stub ih =>
    rw [ofList_concat]
    exact ih.claim stub

/-- The table keeps the stubs whose address no earlier one claims. -/
theorem entries_ofList (stubs : List Stub) : (ofList stubs).entries = firstClaims stubs := by
  induction stubs using List.reverseRecOn with
  | nil =>
    rw [ofList_nil]
    rfl
  | append_singleton front stub ih =>
    have taken : stub.address ∈ (ofList front).byAddress ↔ stub.address ∈ front.map (·.address) := by
      rw [(indexed_ofList front).mem_iff, ih, mem_map_address_firstClaims]
    rw [ofList_concat, firstClaims_concat, claim, ← ih]
    split
    next known => rw [if_pos (taken.mp known), List.append_nil]
    next free => rw [if_neg fun known => free (taken.mpr known)]

/-- No earlier stub of the list has the address of this one. -/
def isUnclaimed (stubs : List Stub) (entry : Stub × Nat) : Bool :=
  entry.1.address ∉ (stubs.take entry.2).map (·.address)

/-- The stubs whose address does not occur earlier in the list. -/
def unclaimed (stubs : List Stub) : List Stub := (stubs.zipIdx.filter (isUnclaimed stubs)).map (·.1)

private theorem unclaimed_concat (front : List Stub) (stub : Stub) : unclaimed (front ++ [stub]) =
    unclaimed front ++ if stub.address ∈ front.map (·.address) then [] else [stub] := by
  have settled : front.zipIdx.filter (isUnclaimed (front ++ [stub])) = front.zipIdx.filter (isUnclaimed front) := by
    apply List.filter_congr
    intro entry member
    have here : entry.2 < front.length := by simpa using (List.mem_zipIdx member).2.1
    rw [isUnclaimed, isUnclaimed, List.take_append_of_le_length (Nat.le_of_lt here)]
  have last : isUnclaimed (front ++ [stub]) (stub, front.length) = decide (stub.address ∉ front.map (·.address)) := by
    rw [isUnclaimed, List.take_left]
  rw [unclaimed, List.zipIdx_append, List.filter_append, List.map_append, settled, unclaimed, Nat.zero_add,
    List.zipIdx_singleton, List.filter_cons, List.filter_nil, last]
  by_cases taken : stub.address ∈ front.map (·.address) <;> simp only [taken] <;> rfl

theorem firstClaims_eq_unclaimed (stubs : List Stub) : firstClaims stubs = unclaimed stubs := by
  induction stubs using List.reverseRecOn with
  | nil => rfl
  | append_singleton front stub ih => rw [firstClaims_concat, unclaimed_concat, ih]

theorem nodup_firstClaims (stubs : List Stub) : ((firstClaims stubs).map (·.address)).Nodup := by
  induction stubs with
  | nil => exact List.nodup_nil
  | cons stub others ih =>
    rw [firstClaims, List.map_cons, List.nodup_cons]
    constructor
    · intro again
      obtain ⟨other, member, same⟩ := List.mem_map.mp again
      have differs : other.address ≠ stub.address := by simpa using (List.mem_filter.mp member).2
      exact differs same
    · exact ih.sublist (List.filter_sublist.map _)

/-- Stubs that are left out are never the first at their address. -/
theorem find?_firstClaims (stubs : List Stub) (address : Nat) :
    (firstClaims stubs).find? (·.address == address) = stubs.find? (·.address == address) := by
  induction stubs with
  | nil => rfl
  | cons stub others ih =>
    rw [firstClaims, List.find?_cons, List.find?_cons]
    split
    next => rfl
    next other =>
      have apart : stub.address ≠ address := by simpa using other
      rw [List.find?_filter, ← ih]
      congr 1
      funext candidate
      by_cases here : candidate.address = address
      · subst here
        simpa using apart.symm
      · simp [here]

theorem startingAt?_ofList (stubs : List Stub) (address : Nat) :
    (ofList stubs).startingAt? address = stubs.find? (·.address == address) := by
  rw [(indexed_ofList stubs).startingAt?, entries_ofList, find?_firstClaims]

private theorem filter_of_new {stub : Stub} (new : stub.address ∉ stubs.map (·.address)) :
    stubs.filter (·.address ≠ stub.address) = stubs := by
  apply List.filter_eq_self.mpr
  intro other member
  have differs : other.address ≠ stub.address := by
    intro same
    exact new (List.mem_map.mpr ⟨other, member, same⟩)
  simpa using differs

theorem firstClaims_of_nodup (distinct : (stubs.map (·.address)).Nodup) : firstClaims stubs = stubs := by
  induction stubs with
  | nil => rfl
  | cons stub others ih =>
    obtain ⟨new, later⟩ := List.nodup_cons.mp distinct
    rw [firstClaims, ih later, filter_of_new new]

/-- Stubs at different addresses are all kept, in front of what is kept of the others. -/
theorem prefix_firstClaims_append (distinct : (stubs.map (·.address)).Nodup) (others : List Stub) :
    stubs <+: firstClaims (stubs ++ others) := by
  induction stubs with
  | nil => exact List.nil_prefix
  | cons stub rest ih =>
    obtain ⟨new, later⟩ := List.nodup_cons.mp distinct
    have front := (ih later).filter fun other => other.address ≠ stub.address
    rw [filter_of_new new] at front
    exact List.cons_prefix_cons.mpr ⟨rfl, front⟩

theorem entries_of_nodup (distinct : (stubs.map (·.address)).Nodup) : (ofList stubs).entries = stubs :=
  (entries_ofList stubs).trans (firstClaims_of_nodup distinct)

end StubTable

end ObjectLens
