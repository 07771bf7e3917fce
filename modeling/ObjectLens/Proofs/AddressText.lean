import Mathlib.Data.List.Forall2
import Mathlib.Data.Nat.Digits.Defs
import Mathlib.Tactic.IntervalCases
import Mathlib.Tactic.Ring
import ObjectLens.Address

/-! The texts that are read as addresses, and the fault that is told of any other text. Digits are explained by how they
are printed, and numbers by what their digits make up, so nothing here depends on how texts are read. -/

namespace ObjectLens

namespace Hex

variable {char : Char} {digit number : Nat} {front rest : List Char}

/-- The character is how a digit is printed, in either case. -/
def Denotes (char : Char) (digit : Nat) : Prop :=
  digit < 16 ∧ (char = Nat.digitChar digit ∨ char = (Nat.digitChar digit).toUpper)

instance (char : Char) (digit : Nat) : Decidable (Denotes char digit) := inferInstanceAs (Decidable (_ ∧ (_ ∨ _)))

private theorem denotes_of_range {first last : Char} (least : Nat)
    (all : ∀ code ≤ last.toNat, first.toNat ≤ code → Denotes (Char.ofNat code) (code - first.toNat + least))
    (range : first ≤ char ∧ char ≤ last) : Denotes char (char.toNat - first.toNat + least) := by
  have denotes := all char.toNat range.2 range.1
  rw [Char.ofNat_toNat] at denotes
  exact denotes

theorem digit?_eq_some_iff : digit? char = some digit ↔ Denotes char digit := by
  constructor
  · intro read
    unfold digit? at read
    split at read
    next decimal =>
      cases read
      exact denotes_of_range 0 (by decide) decimal
    next =>
      split at read
      next lower =>
        cases read
        exact denotes_of_range 10 (by decide) lower
      next =>
        split at read
        next upper =>
          cases read
          exact denotes_of_range 10 (by decide) upper
        next => cases read
  · intro denotes
    obtain ⟨small, rfl | rfl⟩ := denotes
    all_goals
      interval_cases digit
      all_goals rfl

theorem digit?_eq_none_iff : digit? char = none ↔ ∀ digit, ¬ Denotes char digit := by
  simp only [Option.eq_none_iff_forall_ne_some, ne_eq, digit?_eq_some_iff]

/-- No sign, mark, blank or filling is a digit, and neither is any character beyond ASCII. -/
theorem Denotes.plain (denotes : Denotes char digit) :
    char.toNat < 128 ∧ char.isWhitespace = false ∧ char ∉ "+-_xX".toList := by
  obtain ⟨small, rfl | rfl⟩ := denotes
  all_goals
    interval_cases digit
    all_goals decide

private theorem denotes_toUpper (denotes : Denotes char digit) : Denotes char.toUpper digit := by
  obtain ⟨small, same⟩ := denotes
  refine ⟨small, .inr ?_⟩
  obtain rfl | rfl := same
  · rfl
  · interval_cases digit
    all_goals rfl

/-- The characters denote digits, and these make up a number with its highest digit first. -/
def Writes (text : List Char) (number : Nat) : Prop :=
  ∃ digits, List.Forall₂ Denotes text digits ∧ Nat.ofDigits 16 digits.reverse = number

private theorem writes_nil : Writes [] 0 := ⟨[], .nil, rfl⟩

private theorem writes_nil_iff : Writes [] number ↔ number = 0 := by
  constructor
  · intro written
    obtain ⟨digits, denoted, rfl⟩ := written
    cases denoted
    rfl
  · intro zero
    exact zero ▸ writes_nil

private theorem writes_cons_iff : Writes (char :: rest) number ↔
    ∃ digit more, Denotes char digit ∧ Writes rest more ∧ 16 ^ rest.length * digit + more = number := by
  have value (digits : List Nat) (digit : Nat) : Nat.ofDigits 16 (digit :: digits).reverse =
      16 ^ digits.length * digit + Nat.ofDigits 16 digits.reverse := by
    rw [List.reverse_cons, Nat.ofDigits_append, Nat.ofDigits_singleton, List.length_reverse, Nat.add_comm]
  constructor
  · intro written
    obtain ⟨digits, denoted, rfl⟩ := written
    cases denoted with
    | cons first others =>
      refine ⟨_, _, first, ⟨_, others, rfl⟩, ?_⟩
      rw [value, others.length_eq]
  · intro written
    obtain ⟨digit, more, first, ⟨digits, others, rfl⟩, rfl⟩ := written
    refine ⟨digit :: digits, .cons first others, ?_⟩
    rw [value, others.length_eq]

private theorem Writes.exists_denotes (written : Writes front number) :
    ∀ char ∈ front, ∃ digit, Denotes char digit := by
  induction front generalizing number with
  | nil =>
    intro char member
    cases member
  | cons first others ih =>
    obtain ⟨digit, more, denotes, later, _⟩ := writes_cons_iff.mp written
    intro char member
    cases member with
    | head => exact ⟨digit, denotes⟩
    | tail _ member => exact ih later char member

private theorem Writes.concat (written : Writes front number) (last : Denotes char digit) :
    Writes (front ++ [char]) (16 * number + digit) := by
  obtain ⟨digits, denoted, rfl⟩ := written
  refine ⟨digits ++ [digit], List.rel_append denoted (.cons last .nil), ?_⟩
  rw [List.reverse_append, List.reverse_singleton, List.singleton_append, Nat.ofDigits_cons, Nat.add_comm]

/-- Every text starts with digits, maybe none, up to its end or to a character that is no digit. -/
private theorem exists_writes (text : List Char) : ∃ front number rest, Writes front number ∧ text = front ++ rest ∧
    (rest = [] ∨ ∃ bad more, rest = bad :: more ∧ ∀ digit, ¬ Denotes bad digit) := by
  induction text with
  | nil => exact ⟨[], 0, [], writes_nil, rfl, .inl rfl⟩
  | cons char others ih =>
    cases read : digit? char with
    | none => exact ⟨[], 0, char :: others, writes_nil, rfl, .inr ⟨char, others, rfl, digit?_eq_none_iff.mp read⟩⟩
    | some digit =>
      obtain ⟨front, number, rest, written, rfl, stops⟩ := ih
      exact ⟨char :: front, _, rest, writes_cons_iff.mpr ⟨digit, number, digit?_eq_some_iff.mp read, written, rfl⟩, rfl,
        stops⟩

/-! ### Printed numbers -/

private theorem writes_toDigits (number : Nat) : Writes (Nat.toDigits 16 number) number := by
  induction number using Nat.strongRecOn with
  | ind number ih =>
    rw [Nat.toDigits_eq_if (by decide)]
    split
    next small =>
      have only : Denotes (Nat.digitChar number) number := ⟨small, .inl rfl⟩
      exact writes_cons_iff.mpr ⟨number, 0, only, writes_nil, by simp⟩
    next large =>
      have shorter := ih (number / 16) (Nat.div_lt_self (by omega) (by decide))
      have last : Denotes (Nat.digitChar (number % 16)) (number % 16) := ⟨Nat.mod_lt _ (by decide), .inl rfl⟩
      have written := shorter.concat last
      rw [Nat.div_add_mod] at written
      exact written

private theorem Writes.map_toUpper (written : Writes front number) : Writes (front.map Char.toUpper) number := by
  obtain ⟨digits, denoted, value⟩ := written
  exact ⟨digits, List.forall₂_map_left_iff.mpr (denoted.imp fun _ _ => denotes_toUpper), value⟩

private theorem Writes.padded (written : Writes front number) (count : Nat) :
    Writes (List.replicate count '0' ++ front) number := by
  induction count with
  | zero => exact written
  | succ count ih =>
    have zero : Denotes '0' 0 := by decide
    exact writes_cons_iff.mpr ⟨0, number, zero, ih, Nat.zero_add number⟩

end Hex

namespace Address

open Hex (Denotes Writes)

variable {text rest body : List Char} {outcome : Except AddressError Nat}

/-- Digits that were read so far are worth more with every digit that follows. The value that all of them make up is
reached unless it is no word. -/
private theorem readDigits_append {front : List Char} {number : Nat} (written : Writes front number) {value : Nat}
    (word : value < Word.limit) (rest : List Char) : readDigits value (front ++ rest) =
      if 16 ^ front.length * value + number < Word.limit then readDigits (16 ^ front.length * value + number) rest
      else .error .tooLarge := by
  induction front generalizing value number with
  | nil =>
    cases Hex.writes_nil_iff.mp written
    simp [word]
  | cons char others ih =>
    obtain ⟨digit, more, first, later, rfl⟩ := Hex.writes_cons_iff.mp written
    have sum : 16 ^ (char :: others).length * value + (16 ^ others.length * digit + more) =
        16 ^ others.length * (16 * value + digit) + more := by
      rw [List.length_cons]
      ring
    rw [List.cons_append, readDigits, Hex.digit?_eq_some_iff.mpr first, sum]
    by_cases fits : 16 * value + digit < Word.limit
    · simp only [fits, ite_true]
      exact ih later fits
    · have grown : 16 * value + digit ≤ 16 ^ others.length * (16 * value + digit) :=
        Nat.le_mul_of_pos_left _ (Nat.pow_pos (by decide))
      have large : ¬ 16 ^ others.length * (16 * value + digit) + more < Word.limit := by omega
      simp only [fits, large, ite_false]

/-- The answer to characters that should all be digits. The leftmost fault counts: a character that is no digit, or a
digit that makes the number too large for a word. -/
inductive Answers (text : List Char) : Except AddressError Nat → Prop
  | number {value : Nat} (written : Writes text value) (word : value < Word.limit) : Answers text (.ok value)
  | badCharacter {front rest : List Char} {number : Nat} {bad : Char} (split : text = front ++ bad :: rest)
      (written : Writes front number) (word : number < Word.limit) (wrong : ∀ digit, ¬ Denotes bad digit) :
      Answers text (.error .invalidDigit)
  | tooLarge {front rest : List Char} {number : Nat} (split : text = front ++ rest) (written : Writes front number)
      (large : Word.limit ≤ number) : Answers text (.error .tooLarge)

private theorem readDigits_of_writes {front : List Char} {number : Nat} (written : Writes front number)
    (rest : List Char) :
    readDigits 0 (front ++ rest) = if number < Word.limit then readDigits number rest else .error .tooLarge := by
  have start : 0 < Word.limit := by decide
  have read := readDigits_append written start rest
  rw [Nat.mul_zero, Nat.zero_add] at read
  exact read

private theorem Answers.readDigits_eq (answers : Answers text outcome) : readDigits 0 text = outcome := by
  cases answers with
  | number written word =>
    have read := readDigits_of_writes written []
    rw [List.append_nil, if_pos word] at read
    exact read
  | badCharacter split written word wrong =>
    rw [split, readDigits_of_writes written, if_pos word, readDigits, Hex.digit?_eq_none_iff.mpr wrong]
  | tooLarge split written large =>
    rw [split, readDigits_of_writes written, if_neg (Nat.not_lt.mpr large)]

private theorem exists_answers (text : List Char) : ∃ outcome, Answers text outcome := by
  obtain ⟨front, number, rest, written, split, stops⟩ := Hex.exists_writes text
  by_cases word : number < Word.limit
  · cases stops with
    | inl whole =>
      rw [whole, List.append_nil] at split
      exact ⟨_, .number (split ▸ written) word⟩
    | inr stops =>
      obtain ⟨bad, more, rfl, wrong⟩ := stops
      exact ⟨_, .badCharacter split written word wrong⟩
  · exact ⟨_, .tooLarge split written (Nat.not_lt.mp word)⟩

private theorem readDigits_eq_iff : readDigits 0 text = outcome ↔ Answers text outcome := by
  constructor
  · intro read
    obtain ⟨other, answers⟩ := exists_answers text
    cases answers.readDigits_eq.symm.trans read
    exact answers
  · exact Answers.readDigits_eq

/-! ### Marks and signs -/

/-- What may stand in front of a number and its sign. -/
def marks : List (List Char) := ["".toList, "0x".toList, "0X".toList]

/-- What is left of a text without its mark, which is taken as long as possible. -/
inductive Unmarked : List Char → List Char → Prop
  | lower {rest : List Char} : Unmarked ('0' :: 'x' :: rest) rest
  | upper {rest : List Char} : Unmarked ('0' :: 'X' :: rest) rest
  | plain {text : List Char} (lower : ∀ rest, text ≠ '0' :: 'x' :: rest) (upper : ∀ rest, text ≠ '0' :: 'X' :: rest) :
      Unmarked text text

/-- What is left without a plus sign. A sign with nothing behind it is none. -/
inductive Unsigned : List Char → List Char → Prop
  | plus {char : Char} {rest : List Char} : Unsigned ('+' :: char :: rest) (char :: rest)
  | plain {text : List Char} (unsigned : ∀ char rest, text ≠ '+' :: char :: rest) : Unsigned text text

/-- The characters of a text that should be digits. -/
def Numeral (text body : List Char) : Prop := ∃ rest, Unmarked text rest ∧ Unsigned rest body

private theorem Unmarked.withoutMark_eq (unmarked : Unmarked text rest) : withoutMark text = rest := by
  cases unmarked with
  | lower => rfl
  | upper => rfl
  | plain lower upper =>
    unfold withoutMark
    split
    next rest => exact absurd rfl (lower rest)
    next rest => exact absurd rfl (upper rest)
    next => rfl

private theorem unmarked_withoutMark (text : List Char) : Unmarked text (withoutMark text) := by
  unfold withoutMark
  split
  next => exact .lower
  next => exact .upper
  next lower upper => exact .plain (fun rest same => lower rest same) fun rest same => upper rest same

private theorem Unsigned.readNumber_eq (unsigned : Unsigned rest body) (some : rest ≠ []) :
    readNumber rest = readDigits 0 body := by
  cases unsigned with
  | plus => rfl
  | plain none =>
    unfold readNumber
    split
    next => exact absurd rfl some
    next => rfl
    next digits single =>
      cases digits with
      | nil => exact absurd rfl (fun same => single same)
      | cons char others => exact absurd rfl (none char others)
    next => rfl

private theorem parse_of_numeral {text : String} (numeral : Numeral text.toList body) (some : body ≠ []) :
    parse text = readDigits 0 body := by
  obtain ⟨rest, unmarked, unsigned⟩ := numeral
  rw [parse, unmarked.withoutMark_eq]
  apply unsigned.readNumber_eq
  intro nothing
  cases unsigned with
  | plus => cases nothing
  | plain => exact some nothing

private theorem withoutMark_eq_nil_iff : withoutMark text = [] ↔ text ∈ marks := by
  constructor
  · intro nothing
    have unmarked := unmarked_withoutMark text
    rw [nothing] at unmarked
    cases unmarked <;> decide
  · intro mark
    simp only [marks, List.mem_cons, List.not_mem_nil, or_false] at mark
    obtain rfl | rfl | rfl := mark <;> rfl

private theorem exists_numeral (some : text ∉ marks) : ∃ body, Numeral text body ∧ body ≠ [] := by
  have unmarked := unmarked_withoutMark text
  have left : withoutMark text ≠ [] := fun nothing => some (withoutMark_eq_nil_iff.mp nothing)
  by_cases signed : ∃ char rest, withoutMark text = '+' :: char :: rest
  · obtain ⟨char, rest, same⟩ := signed
    rw [same] at unmarked
    exact ⟨_, ⟨_, unmarked, .plus⟩, List.cons_ne_nil _ _⟩
  · have plain : ∀ char rest, withoutMark text ≠ '+' :: char :: rest := fun char rest same => signed ⟨char, rest, same⟩
    exact ⟨_, ⟨_, unmarked, .plain plain⟩, left⟩

/-- A text that is no more than a mark is empty. Any other one is answered by the characters that should be digits. -/
theorem parse_eq_iff {text : String} : parse text = outcome ↔
    (text.toList ∈ marks ∧ outcome = .error .empty) ∨
      ∃ body, Numeral text.toList body ∧ body ≠ [] ∧ Answers body outcome := by
  constructor
  · intro parsed
    by_cases bare : text.toList ∈ marks
    · rw [parse, withoutMark_eq_nil_iff.mpr bare] at parsed
      exact .inl ⟨bare, parsed.symm⟩
    · obtain ⟨body, numeral, some⟩ := exists_numeral bare
      rw [parse_of_numeral numeral some] at parsed
      exact .inr ⟨body, numeral, some, readDigits_eq_iff.mp parsed⟩
  · intro told
    cases told with
    | inl bare =>
      rw [parse, withoutMark_eq_nil_iff.mpr bare.1, bare.2]
      rfl
    | inr numeral =>
      obtain ⟨body, numeral, some, answers⟩ := numeral
      rw [parse_of_numeral numeral some]
      exact answers.readDigits_eq

private theorem parse_eq_iff_exists (told : outcome ≠ .error .empty) {text : String} : parse text = outcome ↔
    ∃ body, Numeral text.toList body ∧ body ≠ [] ∧ Answers body outcome := by
  rw [parse_eq_iff]
  simp only [told, and_false, false_or]

/-! ### The grammar -/

def signs : List (List Char) := ["".toList, "+".toList]

private theorem Unmarked.exists_mark (unmarked : Unmarked text rest) : ∃ mark ∈ marks, text = mark ++ rest := by
  cases unmarked with
  | lower => exact ⟨['0', 'x'], by decide, rfl⟩
  | upper => exact ⟨['0', 'X'], by decide, rfl⟩
  | plain => exact ⟨[], by decide, rfl⟩

private theorem Unsigned.exists_sign (unsigned : Unsigned rest body) : ∃ sign ∈ signs, rest = sign ++ body := by
  cases unsigned with
  | plus => exact ⟨['+'], by decide, rfl⟩
  | plain => exact ⟨[], by decide, rfl⟩

/-- Digits contain no mark and no sign, so those in front of them are the ones that are left out. -/
private theorem numeral_of_writes {mark sign digits : List Char} {value : Nat} (marked : mark ∈ marks)
    (signed : sign ∈ signs) (some : digits ≠ []) (written : Writes digits value) :
    Numeral (mark ++ sign ++ digits) digits := by
  have digitsOnly {char : Char} (member : char ∈ digits) : char ∉ "+-_xX".toList := by
    obtain ⟨digit, denotes⟩ := written.exists_denotes char member
    exact denotes.plain.2.2
  have unsigned : Unsigned (sign ++ digits) digits := by
    simp only [signs, List.mem_cons, List.not_mem_nil, or_false] at signed
    obtain rfl | rfl := signed
    · apply Unsigned.plain
      intro char rest same
      exact digitsOnly (same ▸ List.mem_cons_self) (by decide)
    · obtain ⟨char, rest, rfl⟩ := List.exists_cons_of_ne_nil some
      exact .plus
  refine ⟨sign ++ digits, ?_, unsigned⟩
  simp only [marks, List.mem_cons, List.not_mem_nil, or_false] at marked
  obtain rfl | rfl | rfl := marked
  · -- Behind a sign there may be a mark in the text, but it is no longer in front.
    have second {char : Char} {rest : List Char} (odd : char ∈ "+-_xX".toList) :
        "".toList ++ sign ++ digits ≠ '0' :: char :: rest := by
      intro same
      simp only [signs, List.mem_cons, List.not_mem_nil, or_false] at signed
      obtain rfl | rfl := signed
      · have whole : digits = '0' :: char :: rest := same
        exact digitsOnly (whole ▸ List.mem_cons_of_mem _ List.mem_cons_self) odd
      · cases same
    exact .plain (fun _ => second (by decide)) fun _ => second (by decide)
  · exact .lower
  · exact .upper

theorem parse_eq_ok_iff {text : String} {value : Nat} : parse text = .ok value ↔ value < Word.limit ∧
    ∃ mark ∈ marks, ∃ sign ∈ signs, ∃ digits, digits ≠ [] ∧ Writes digits value ∧
      text.toList = mark ++ sign ++ digits := by
  rw [parse_eq_iff_exists (by simp)]
  constructor
  · intro told
    obtain ⟨body, ⟨rest, unmarked, unsigned⟩, some, answers⟩ := told
    obtain ⟨mark, marked, split⟩ := unmarked.exists_mark
    obtain ⟨sign, signed, rfl⟩ := unsigned.exists_sign
    cases answers with
    | number written word =>
      rw [← List.append_assoc] at split
      exact ⟨word, mark, marked, sign, signed, body, some, written, split⟩
  · intro grammar
    obtain ⟨word, mark, marked, sign, signed, digits, some, written, split⟩ := grammar
    exact ⟨digits, split ▸ numeral_of_writes marked signed some written, some, .number written word⟩

theorem parse_eq_empty_iff {text : String} : parse text = .error .empty ↔ text.toList ∈ marks := by
  rw [parse_eq_iff]
  constructor
  · intro told
    cases told with
    | inl bare => exact bare.1
    | inr numeral =>
      obtain ⟨body, _, _, answers⟩ := numeral
      cases answers
  · intro bare
    exact .inl ⟨bare, rfl⟩

theorem parse_eq_invalidDigit_iff {text : String} : parse text = .error .invalidDigit ↔
    ∃ front bad rest number, Numeral text.toList (front ++ bad :: rest) ∧ Writes front number ∧
      number < Word.limit ∧ ∀ digit, ¬ Denotes bad digit := by
  rw [parse_eq_iff_exists (by simp)]
  constructor
  · intro told
    obtain ⟨body, numeral, _, answers⟩ := told
    cases answers with
    | badCharacter split written word wrong => exact ⟨_, _, _, _, split ▸ numeral, written, word, wrong⟩
  · intro fault
    obtain ⟨front, bad, rest, number, numeral, written, word, wrong⟩ := fault
    exact ⟨_, numeral, by simp, .badCharacter rfl written word wrong⟩

theorem parse_eq_tooLarge_iff {text : String} : parse text = .error .tooLarge ↔
    ∃ front rest number, Numeral text.toList (front ++ rest) ∧ Writes front number ∧ Word.limit ≤ number := by
  rw [parse_eq_iff_exists (by simp)]
  constructor
  · intro told
    obtain ⟨body, numeral, _, answers⟩ := told
    cases answers with
    | tooLarge split written large => exact ⟨_, _, _, split ▸ numeral, written, large⟩
  · intro fault
    obtain ⟨front, rest, number, numeral, written, large⟩ := fault
    have some : front ++ rest ≠ [] := by
      intro nothing
      cases (List.append_eq_nil_iff.mp nothing).1
      cases Hex.writes_nil_iff.mp written
      exact absurd large (by decide)
    exact ⟨_, numeral, some, .tooLarge rfl written large⟩

/-! ### Printed addresses -/

private theorem parse_of_printed {text : String} {mark digits : List Char} {value : Nat} (marked : mark ∈ marks)
    (some : digits ≠ []) (written : Writes digits value) (word : value < Word.limit)
    (split : text.toList = mark ++ digits) : parse text = .ok value := by
  have unsigned : [] ∈ signs := by decide
  refine parse_eq_ok_iff.mpr ⟨word, mark, marked, [], unsigned, digits, some, written, ?_⟩
  rw [split, List.append_nil]

/-- However an address is printed, it is read as itself. -/
theorem parse_printed {value : Nat} (word : value < Word.limit) : ∀ text ∈ [Hex.word value, Hex.padded value,
    "0x" ++ Hex.upperDigits value, Hex.digits value], parse text = .ok value := by
  have written := Hex.writes_toDigits value
  have some : Nat.toDigits 16 value ≠ [] := Nat.toDigits_ne_nil
  have marked : "0x".toList ∈ marks := by decide
  have unmarked : [] ∈ marks := by decide
  intro text member
  simp only [List.mem_cons, List.not_mem_nil, or_false] at member
  obtain rfl | rfl | rfl | rfl := member
  · exact parse_of_printed marked some written word (by simp [Hex.word, Hex.digits])
  · apply parse_of_printed marked _ (written.padded (16 - (Nat.toDigits 16 value).length)) word
    · simp [Hex.padded]
    · simp [some]
  · apply parse_of_printed marked _ written.map_toUpper word
    · simp [Hex.upperDigits]
    · simp [some]
  · exact parse_of_printed unmarked some written word (by simp [Hex.digits])

private theorem length_padded {value : Nat} (word : value < Word.limit) : (Hex.padded value).length = 18 := by
  have short : (Nat.toDigits 16 value).length ≤ 16 := Nat.toDigits_length 16 value 16 (by decide) word
  simp only [Hex.padded, String.length_append, String.length_ofList, List.length_append, List.length_replicate]
  rw [Nat.sub_add_cancel short]
  rfl

/-- A text is an address exactly if it is an optional mark, an optional plus sign and digits, whose value is a word. Of
any other text the leftmost fault is told: it has nothing behind its mark, or there is a character that is no digit
behind digits whose value is a word still, or the value is too large for a word before there is such a character. And
every address is read as it was printed, with or without zeros in front. -/
theorem parse_by_grammar (text : String) :
    (∀ value, parse text = .ok value ↔ value < Word.limit ∧ ∃ mark ∈ marks, ∃ sign ∈ signs, ∃ digits, digits ≠ [] ∧
      Writes digits value ∧ text.toList = mark ++ sign ++ digits) ∧
    (parse text = .error .empty ↔ text.toList ∈ marks) ∧
    (parse text = .error .invalidDigit ↔ ∃ front bad rest number, Numeral text.toList (front ++ bad :: rest) ∧
      Writes front number ∧ number < Word.limit ∧ ∀ digit, ¬ Denotes bad digit) ∧
    (parse text = .error .tooLarge ↔ ∃ front rest number, Numeral text.toList (front ++ rest) ∧
      Writes front number ∧ Word.limit ≤ number) ∧
    (∀ char digit, Denotes char digit →
      char.toNat < 128 ∧ char.isWhitespace = false ∧ char ∉ "+-_xX".toList) ∧
    ∀ value < Word.limit, (Hex.padded value).length = 18 ∧ ∀ printed ∈ [Hex.word value, Hex.padded value,
      "0x" ++ Hex.upperDigits value, Hex.digits value], parse printed = .ok value :=
  ⟨fun _ => parse_eq_ok_iff, parse_eq_empty_iff, parse_eq_invalidDigit_iff, parse_eq_tooLarge_iff,
    fun _ _ => Denotes.plain, fun _ word => ⟨length_padded word, parse_printed word⟩⟩

/-- Zeros in front do not count, a second mark is a wrong character, and of a wrong character and a number too large the
one further left is told. -/
theorem parse_of_longTexts : parse "0X+00000000000000000001f" = .ok 31 ∧ parse "0x0x1" = .error .invalidDigit ∧
    parse "ffffffffffffffffg" = .error .invalidDigit ∧ parse "10000000000000000g" = .error .tooLarge ∧
    parse (Hex.padded 0xdeadbeef) = .ok 0xdeadbeef := by
  have padded : Writes "00000000000000000001f".toList 31 := (Hex.writes_toDigits 31).padded 19
  have zero : Writes ['0'] 0 := Hex.writes_toDigits 0
  have greatest : Writes "ffffffffffffffff".toList Word.last := Hex.writes_toDigits Word.last
  have past : Writes "10000000000000000".toList Word.limit := Hex.writes_toDigits Word.limit
  have bare (first second : Char) (rest : List Char) (sign : first ≠ '+') (noMark : second ∉ ['x', 'X']) :
      Numeral (first :: second :: rest) (first :: second :: rest) := by
    refine ⟨_, .plain ?_ ?_, .plain ?_⟩
    · rintro _ ⟨⟩
      exact noMark (by decide)
    · rintro _ ⟨⟩
      exact noMark (by decide)
    · rintro _ _ ⟨⟩
      exact sign rfl
  refine ⟨?_, ?_, ?_, ?_, ?_⟩
  · obtain ⟨number, _⟩ := parse_by_grammar "0X+00000000000000000001f"
    refine (number 31).mpr ⟨by decide, "0X".toList, by decide, "+".toList, by decide, _, ?_, padded, rfl⟩
    decide
  · obtain ⟨_, _, wrong, _⟩ := parse_by_grammar "0x0x1"
    have unsigned : Unsigned ['0', 'x', '1'] ['0', 'x', '1'] := .plain fun _ _ same => by cases same
    exact wrong.mpr ⟨['0'], 'x', ['1'], 0, ⟨_, .lower, unsigned⟩, zero, by decide, Hex.digit?_eq_none_iff.mp rfl⟩
  · obtain ⟨_, _, wrong, _⟩ := parse_by_grammar "ffffffffffffffffg"
    have numeral := bare 'f' 'f' "ffffffffffffffg".toList (by decide) (by decide)
    exact wrong.mpr ⟨"ffffffffffffffff".toList, 'g', [], _, numeral, greatest, by decide, Hex.digit?_eq_none_iff.mp rfl⟩
  · obtain ⟨_, _, _, large, _⟩ := parse_by_grammar "10000000000000000g"
    have numeral := bare '1' '0' "000000000000000g".toList (by decide) (by decide)
    exact large.mpr ⟨"10000000000000000".toList, ['g'], _, numeral, past, Nat.le_refl _⟩
  · obtain ⟨_, _, _, _, _, printed⟩ := parse_by_grammar ""
    exact (printed 0xdeadbeef (by decide)).2 _ (by simp)

end Address

end ObjectLens
