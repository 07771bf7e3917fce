import Mathlib.Logic.Relation
import ObjectLens.MachO.Binding

/-! How binding programs end. A program goes from point to point; it dangles if it gets to one where it binds a slot
whose segment or library is not there. Following it with as much fuel as the file has bytes tells exactly that. -/

namespace ObjectLens.MachO

namespace Binding

/-- A place in a program, and the state of the binder there. -/
structure Point where
  position : Nat
  state : Binding

/-- The instruction at the first point is inside of the program and can be read, and it leads to the other point. -/
def Advances (file : File) (bytes : Bytes) (stop : Nat) (point next : Point) : Prop :=
  point.position < stop ∧ ∃ step, step? file.encoding.wordSize bytes point.state point.position = some step ∧
    next = ⟨step.next, (run step.distance step.count step.state).2⟩

abbrev Reaches (file : File) (bytes : Bytes) (stop : Nat) : Point → Point → Prop :=
  Relation.ReflTransGen (Advances file bytes stop)

/-- A slot is bound at the point. Where an instruction binds a single slot, it does so even if the operands that are to
follow cannot be read. -/
def Binds (file : File) (bytes : Bytes) (stop : Nat) (point : Point) : Prop :=
  point.position < stop ∧ (bindsAtOnce bytes point.position = true ∨
    ∃ step, step? file.encoding.wordSize bytes point.state point.position = some step ∧ step.count ≠ 0)

def DanglesFrom (file : File) (bytes : Bytes) (stop : Nat) (point : Point) : Prop :=
  ∃ reached, Reaches file bytes stop point reached ∧ Binds file bytes stop reached ∧
    isSound file reached.state = false

def CompletesFrom (file : File) (bytes : Bytes) (stop : Nat) (point : Point) : Prop :=
  ∃ reached, Reaches file bytes stop point reached ∧ stop ≤ reached.position

section

variable {bytes : Bytes} {wordSize position : Nat} {state : Binding} {step : Step}

private theorem lt_of_readBase128? {lastDigits : List Nat} {left value next : Nat}
    (read : readBase128? bytes lastDigits left position = some (value, next)) : position < next := by
  induction left generalizing position value next with
  | zero => cases read
  | succ left ih =>
    simp only [readBase128?, Option.bind_eq_bind, Option.bind_eq_some_iff] at read
    obtain ⟨byte, _, read⟩ := read
    split at read
    · cases read
    · split at read
      · cases read
        exact Nat.lt_succ_self position
      · obtain ⟨⟨rest, after⟩, shorter, same⟩ := Option.bind_eq_some_iff.mp read
        cases same
        exact Nat.lt_of_succ_lt (ih shorter)

private theorem lt_of_skipSigned? {next : Nat} (read : skipSigned? bytes position = some next) : position < next := by
  obtain ⟨⟨value, after⟩, here, rfl⟩ := Option.map_eq_some_iff.mp read
  exact lt_of_readBase128? here

/-- An instruction takes at least one byte of the file, and one that binds slots binds them in the state that it was
met in. -/
theorem step?_spec (read : step? wordSize bytes state position = some step) :
    position < bytes.size ∧ position < step.next ∧ (step.count ≠ 0 → step.state = state) := by
  simp only [step?, Option.bind_eq_bind, Option.bind_eq_some_iff] at read
  obtain ⟨byte, here, read⟩ := read
  have inside : position < bytes.size := by
    simp only [Bytes.byte?] at here
    split at here
    next inside => exact inside
    next => cases here
  refine ⟨inside, ?_⟩
  split at read
  -- These have one number as their operand: a library, a position in a segment, or a distance.
  case h_3 | h_6 | h_7 | h_9 =>
    obtain ⟨⟨value, next⟩, number, same⟩ := Option.bind_eq_some_iff.mp read
    cases same
    exact ⟨Nat.lt_of_succ_lt (lt_of_readBase128? number), by simp⟩
  case h_4 =>
    obtain ⟨name, _, same⟩ := Option.bind_eq_some_iff.mp read
    cases same
    exact ⟨Nat.lt_succ_of_le (Nat.le_add_right_of_le (Nat.le_succ position)), by simp⟩
  case h_5 =>
    obtain ⟨next, number, same⟩ := Option.bind_eq_some_iff.mp read
    cases same
    exact ⟨Nat.lt_of_succ_lt (lt_of_skipSigned? number), by simp⟩
  case h_11 =>
    obtain ⟨⟨count, middle⟩, number, read⟩ := Option.bind_eq_some_iff.mp read
    obtain ⟨⟨skipped, next⟩, another, same⟩ := Option.bind_eq_some_iff.mp read
    cases same
    have before := Nat.lt_of_succ_lt (lt_of_readBase128? number)
    exact ⟨Nat.lt_trans before (lt_of_readBase128? another), fun _ => rfl⟩
  all_goals
    cases read
    exact ⟨Nat.lt_succ_self position, by simp⟩

end

section

variable {file : File} {bytes : Bytes} {stop : Nat} {point next : Point}

theorem Advances.deterministic {other : Point} (advances : Advances file bytes stop point next)
    (again : Advances file bytes stop point other) : other = next := by
  obtain ⟨_, step, read, rfl⟩ := advances
  obtain ⟨_, more, reread, rfl⟩ := again
  cases Option.some.inj (read.symm.trans reread)
  rfl

/-- What can be reached is the point itself and what can be reached from the next one. -/
private theorem reaches_of_advances (advances : Advances file bytes stop point next) {reached : Point} :
    Reaches file bytes stop point reached ↔ reached = point ∨ Reaches file bytes stop next reached := by
  rw [Reaches, Relation.ReflTransGen.cases_head_iff]
  refine or_congr eq_comm ⟨?_, fun onward => ⟨next, advances, onward⟩⟩
  rintro ⟨middle, first, onward⟩
  exact advances.deterministic first ▸ onward

private theorem reaches_of_stuck (stuck : ∀ next, ¬ Advances file bytes stop point next) {reached : Point} :
    Reaches file bytes stop point reached ↔ reached = point := by
  rw [Reaches, Relation.ReflTransGen.cases_head_iff]
  constructor
  · rintro (rfl | ⟨next, first, _⟩)
    · rfl
    · exact absurd first (stuck next)
  · rintro rfl
    exact .inl rfl

private theorem danglesFrom_of_advances (advances : Advances file bytes stop point next)
    (sound : Binds file bytes stop point → isSound file point.state = true) :
    DanglesFrom file bytes stop point ↔ DanglesFrom file bytes stop next := by
  simp only [DanglesFrom, reaches_of_advances advances]
  constructor
  · rintro ⟨reached, rfl | onward, binds, unsound⟩
    · exact absurd ((sound binds).symm.trans unsound) Bool.noConfusion
    · exact ⟨reached, onward, binds, unsound⟩
  · rintro ⟨reached, onward, rest⟩
    exact ⟨reached, .inr onward, rest⟩

private theorem not_danglesFrom_of_stuck (stuck : ∀ next, ¬ Advances file bytes stop point next)
    (sound : Binds file bytes stop point → isSound file point.state = true) : ¬ DanglesFrom file bytes stop point := by
  rintro ⟨reached, path, binds, unsound⟩
  obtain rfl := (reaches_of_stuck stuck).mp path
  exact absurd ((sound binds).symm.trans unsound) Bool.noConfusion

private theorem completesFrom_of_advances (advances : Advances file bytes stop point next) :
    CompletesFrom file bytes stop point ↔ CompletesFrom file bytes stop next := by
  simp only [CompletesFrom, reaches_of_advances advances]
  constructor
  · rintro ⟨reached, rfl | onward, ended⟩
    · exact absurd ended (Nat.not_le_of_lt advances.1)
    · exact ⟨reached, onward, ended⟩
  · rintro ⟨reached, onward, ended⟩
    exact ⟨reached, .inr onward, ended⟩

private theorem not_completesFrom_of_stuck (stuck : ∀ next, ¬ Advances file bytes stop point next)
    (before : point.position < stop) : ¬ CompletesFrom file bytes stop point := by
  rintro ⟨reached, path, ended⟩
  obtain rfl := (reaches_of_stuck stuck).mp path
  exact Nat.not_le_of_lt before ended

/-- What the outcome of following a program from a point on says about the points that it gets to. -/
def Tells (file : File) (bytes : Bytes) (stop : Nat) (point : Point) : Outcome → Prop
  | .bound _ => ¬ DanglesFrom file bytes stop point ∧ CompletesFrom file bytes stop point
  | .unreadable => ¬ DanglesFrom file bytes stop point ∧ ¬ CompletesFrom file bytes stop point
  | .dangling => DanglesFrom file bytes stop point

private theorem tells_of_end (ended : stop ≤ point.position) : Tells file bytes stop point (.bound []) := by
  have stuck : ∀ next, ¬ Advances file bytes stop point next := by
    intro next advances
    exact Nat.not_le_of_lt advances.1 ended
  refine ⟨not_danglesFrom_of_stuck stuck fun binds => ?_, point, .refl, ended⟩
  exact absurd ended (Nat.not_le_of_lt binds.1)

private theorem tells_of_unsound (binds : Binds file bytes stop point) (unsound : isSound file point.state = false) :
    Tells file bytes stop point .dangling :=
  ⟨point, .refl, binds, unsound⟩

private theorem tells_of_unread (before : point.position < stop)
    (unread : step? file.encoding.wordSize bytes point.state point.position = none)
    (atOnce : bindsAtOnce bytes point.position = true → isSound file point.state = true) :
    Tells file bytes stop point .unreadable := by
  have stuck : ∀ next, ¬ Advances file bytes stop point next := by
    rintro next ⟨_, step, read, _⟩
    cases unread.symm.trans read
  refine ⟨not_danglesFrom_of_stuck stuck fun binds => ?_, not_completesFrom_of_stuck stuck before⟩
  rcases binds.2 with early | ⟨step, read, _⟩
  · exact atOnce early
  · cases unread.symm.trans read

/-- Whatever slots an instruction binds, the next point tells the same, unless one of these slots is not there. -/
private theorem tells_of_read {step : Step} (before : point.position < stop)
    (read : step? file.encoding.wordSize bytes point.state point.position = some step)
    (atOnce : bindsAtOnce bytes point.position = true → isSound file point.state = true)
    (counted : step.count ≠ 0 → isSound file point.state = true) (outcome : Outcome) :
    Tells file bytes stop point outcome ↔
      Tells file bytes stop ⟨step.next, (run step.distance step.count step.state).2⟩ outcome := by
  have advances : Advances file bytes stop point ⟨step.next, _⟩ := ⟨before, step, read, rfl⟩
  have sound : Binds file bytes stop point → isSound file point.state = true := by
    rintro ⟨_, early | ⟨again, reread, some⟩⟩
    · exact atOnce early
    · obtain rfl := Option.some.inj (read.symm.trans reread)
      exact counted some
  have dangles := danglesFrom_of_advances advances sound
  have completes := completesFrom_of_advances advances
  cases outcome with
  | bound others => exact and_congr (not_congr dangles) completes
  | unreadable => exact and_congr (not_congr dangles) (not_congr completes)
  | dangling => exact dangles

private theorem tells_follow (point : Point) {left : Nat} (some : 0 < left)
    (enough : bytes.size + 1 < left + point.position) :
    Tells file bytes stop point (follow file bytes stop left point.position point.state) := by
  -- Every instruction takes a byte, so there is always more fuel than there are bytes left.
  induction left generalizing point with
  | zero => exact absurd some (Nat.lt_irrefl 0)
  | succ left ih =>
    rw [follow]
    split
    next ended => exact tells_of_end ended
    next before =>
      have before : point.position < stop := Nat.lt_of_not_le before
      split
      next dangling =>
        simp only [Bool.not_eq_true'] at dangling
        exact tells_of_unsound ⟨before, .inl dangling.1⟩ dangling.2
      next fine =>
        have atOnce (early : bindsAtOnce bytes point.position = true) : isSound file point.state = true := by
          simpa [early] using fine
        split
        next unread => exact tells_of_unread before unread atOnce
        next step read =>
          obtain ⟨inside, further, same⟩ := step?_spec read
          split
          next dangling =>
            simp only [Bool.not_eq_true'] at dangling
            rw [same dangling.1] at dangling
            exact tells_of_unsound ⟨before, .inr ⟨step, read, dangling.1⟩⟩ dangling.2
          next safe =>
            have counted (some : step.count ≠ 0) : isSound file point.state = true := by
              simpa [some, same some] using safe
            have room : bytes.size + 1 < left + step.next := by omega
            have onward := ih ⟨step.next, (run step.distance step.count step.state).2⟩ (by omega) room
            apply (tells_of_read before read atOnce counted _).mpr
            dsimp only at onward ⊢
            split
            next others reached =>
              rw [reached] at onward
              exact onward
            next => exact onward

end

end Binding

namespace File

open Binding

variable {file : File} {bytes : Bytes}

/-- A program of the file binds a slot whose segment or library is not there. The second program is run if the first
one comes to its end. -/
def Dangles (file : File) (bytes : Bytes) : Prop :=
  ∃ eager lazy, file.bindings = some (eager, lazy) ∧
    (DanglesFrom file bytes (eager.start + eager.size) ⟨eager.start, initial⟩ ∨
      CompletesFrom file bytes (eager.start + eager.size) ⟨eager.start, initial⟩ ∧
        DanglesFrom file bytes (lazy.start + lazy.size) ⟨lazy.start, initial⟩)

theorem tells_ofProgram (file : File) (bytes : Bytes) (program : Range) :
    Tells file bytes (program.start + program.size) ⟨program.start, initial⟩ (ofProgram file bytes program) :=
  tells_follow ⟨program.start, initial⟩ (Nat.succ_pos _) (Nat.lt_add_right _ (Nat.lt_succ_self _))

theorem ofFile_eq_dangling_iff : ofFile file bytes = .dangling ↔ file.Dangles bytes := by
  cases here : file.bindings with
  | none => simp [ofFile, Dangles, here]
  | some programs =>
    obtain ⟨eager, lazy⟩ := programs
    have first := tells_ofProgram file bytes eager
    have second := tells_ofProgram file bytes lazy
    simp only [Dangles, ofFile, here, Option.some.injEq, Prod.mk.injEq, exists_eq_left', and_assoc, exists_and_left]
    cases eagerOutcome : ofProgram file bytes eager with
    | unreadable =>
      rw [eagerOutcome] at first
      simp [first.1, first.2]
    | dangling =>
      rw [eagerOutcome] at first
      exact iff_of_true rfl (.inl first)
    | bound bindings =>
      rw [eagerOutcome] at first
      cases lazyOutcome : ofProgram file bytes lazy with
      | dangling =>
        rw [lazyOutcome] at second
        exact iff_of_true rfl (.inr ⟨first.2, second⟩)
      | unreadable | bound =>
        rw [lazyOutcome] at second
        simp [first.1, second.1]

end File

end ObjectLens.MachO
