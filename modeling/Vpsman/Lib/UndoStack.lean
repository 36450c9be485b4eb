import Mathlib.Data.List.Basic

/-! # A register with conditional undo

Writers overwrite one register and remember what it held. A writer that gives up
restores the remembered value, but only if the register still holds its own value.
The register then behaves as the top of a stack from which a value is removed only
by its own writer, and only while it is on top.
-/

namespace Vpsman.Lib.UndoStack

variable {μ : Type}

/-- `prior` is what lies directly under `value` wherever `value` is in the stack. -/
def Under (stack : List μ) (value : μ) (prior : Option μ) : Prop :=
  ∀ above below, stack = above ++ value :: below → prior = below.head?

variable {stack : List μ}

theorem under_push_self (fresh : value ∉ stack) : Under (value :: stack) value stack.head? := by
  intro above below same
  cases above with
  | nil => rw [(List.cons.inj same).2]
  | cons _ above =>
    have member : value ∈ stack := by
      rw [(List.cons.inj same).2]
      exact List.mem_append_right above List.mem_cons_self
    exact absurd member fresh

variable {prior : Option μ}

theorem Under.push (under : Under stack value prior) (different : value ≠ pushed) :
    Under (pushed :: stack) value prior := by
  intro above below same
  cases above with
  | nil => exact absurd (List.cons.inj same).1.symm different
  | cons _ above => exact under above below (List.cons.inj same).2

variable [DecidableEq μ]

/-- Take `value` off the stack if it is on top. -/
def retract (value : μ) : List μ → List μ
  | [] => []
  | top :: rest => if top = value then rest else top :: rest

theorem mem_retract_of_ne (member : other ∈ stack) (different : other ≠ value) :
    other ∈ retract value stack := by
  cases stack with
  | nil => exact absurd member List.not_mem_nil
  | cons =>
    simp only [retract]
    split
    next same =>
      exact (List.mem_cons.mp member).resolve_left fun isTop => different (isTop.trans same)
    · exact member

theorem mem_of_mem_retract (member : other ∈ retract value stack) : other ∈ stack := by
  cases stack with
  | nil => exact member
  | cons top =>
    simp only [retract] at member
    split at member
    · exact List.mem_cons_of_mem top member
    · exact member

theorem Under.retract (under : Under stack value prior) :
    Under (retract removed stack) value prior := by
  cases stack with
  | nil => exact under
  | cons top =>
    simp only [UndoStack.retract]
    split
    · intro above below same
      exact under (top :: above) below (congrArg (top :: ·) same)
    · exact under

/-- The conditional restore of the register is a retraction of the stack. -/
theorem head_retract (under : Under stack value prior) :
    (retract value stack).head? = if stack.head? = some value then prior else stack.head? := by
  cases stack with
  | nil => rfl
  | cons _ rest =>
    simp only [retract, List.head?_cons, Option.some_inj]
    split
    next same =>
      subst same
      exact (under [] rest rfl).symm
    · rfl

/-- Every value of the stack is held over the one below it. -/
def Backed (holds : μ → Option μ → Prop) : List μ → Prop
  | [] => True
  | top :: rest => holds top rest.head? ∧ Backed holds rest

omit [DecidableEq μ] in
theorem Backed.mono (backed : Backed holds stack)
    (kept : ∀ value ∈ stack, ∀ prior, holds value prior → holds' value prior) :
    Backed holds' stack := by
  induction stack with
  | nil => trivial
  | cons top _ ih =>
    obtain ⟨held, below⟩ := backed
    refine ⟨kept top List.mem_cons_self _ held, ih below ?_⟩
    exact fun value member => kept value (List.mem_cons_of_mem top member)

omit [DecidableEq μ] in
theorem Backed.holds_of_mem (backed : Backed holds stack)
    (member : value ∈ stack) : ∃ prior, holds value prior := by
  induction stack with
  | nil => exact absurd member List.not_mem_nil
  | cons _ rest ih =>
    rcases List.mem_cons.mp member with rfl | member
    · exact ⟨rest.head?, backed.1⟩
    · exact ih backed.2 member

end Vpsman.Lib.UndoStack
