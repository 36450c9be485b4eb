import Mathlib.Data.List.Basic

/-! # Programs that may be cut at any await

A program of a process reads and assigns the memory of the process and awaits calls to the
world outside. The environment answers a call, or it drops the program there, which leaves
the memory as it is, or it crashes the process, which leaves a fresh one. An invariant of
memory and world that a program keeps at its awaits therefore holds wherever it is cut.
-/

namespace Vpsman.Lib

inductive Program (μ : Type) {Call : Type} (Answer : Call → Type) (α : Type) where
  | done (result : α)
  | read (next : μ → Program μ Answer α)
  | assign (memory : μ) (next : Program μ Answer α)
  | await (call : Call) (next : Answer call → Program μ Answer α)

/-- What becomes of a call, with the world afterwards. -/
inductive Outcome (ω : Type) (Answer : Type) where
  | answered (answer : Answer) (world : ω)
  | dropped (world : ω)
  | crashed (world : ω)

/-- What each outcome has to satisfy. -/
def Outcome.All {ω Answer : Type} (answered : Answer → ω → Prop) (dropped crashed : ω → Prop) :
    Outcome ω Answer → Prop
  | .answered answer world => answered answer world
  | .dropped world => dropped world
  | .crashed world => crashed world

theorem Outcome.All.imp {answered answered' : Answer → ω → Prop}
    {dropped crashed : ω → Prop} {outcome : Outcome ω Answer}
    (all : outcome.All answered dropped crashed)
    (weaker : ∀ answer world, answered answer world → answered' answer world) :
    outcome.All answered' dropped crashed := by
  cases outcome with
  | answered answer world => exact weaker answer world all
  | dropped | crashed => exact all

/-- How the environment's choices decide the calls, and the memory of a new process. -/
structure Environment (μ ω Choice : Type) {Call : Type} (Answer : Call → Type) where
  fresh : μ
  perform : (call : Call) → Choice → ω → Outcome ω (Answer call)

namespace Program

variable {μ ω Call Choice α β γ ε : Type} {Answer : Call → Type}

def bind : Program μ Answer α → (α → Program μ Answer β) → Program μ Answer β
  | .done result, f => f result
  | .read next, f => .read fun memory => (next memory).bind f
  | .assign memory next, f => .assign memory (next.bind f)
  | .await call next, f => .await call fun answer => (next answer).bind f

instance : Monad (Program μ Answer) where
  pure := .done
  bind := .bind

/-- Run with one choice for each call; without a choice the program is still waiting. -/
def exec (environment : Environment μ ω Choice Answer) :
    Program μ Answer α → List Choice → μ → ω → Option α × μ × ω
  | .done result, _, memory, world => (some result, memory, world)
  | .read next, choices, memory, world => (next memory).exec environment choices memory world
  | .assign memory next, choices, _, world => next.exec environment choices memory world
  | .await _ _, [], memory, world => (none, memory, world)
  | .await call next, choice :: rest, memory, world =>
    match environment.perform call choice world with
    | .answered answer world => (next answer).exec environment rest memory world
    | .dropped world => (none, memory, world)
    | .crashed world => (none, environment.fresh, world)

/-- The invariant holds at every await and wherever the program may be cut, and the
    postcondition holds at the end. -/
def Keeps (environment : Environment μ ω Choice Answer) (inv : μ → ω → Prop)
    (post : α → μ → ω → Prop) : Program μ Answer α → μ → ω → Prop
  | .done result, memory, world => post result memory world
  | .read next, memory, world => (next memory).Keeps environment inv post memory world
  | .assign memory next, _, world => next.Keeps environment inv post memory world
  | .await call next, memory, world =>
    inv memory world ∧ ∀ choice, (environment.perform call choice world).All
      (fun answer world => (next answer).Keeps environment inv post memory world)
      (inv memory) (inv environment.fresh)

variable {environment : Environment μ ω Choice Answer} {inv : μ → ω → Prop}
  {post : α → μ → ω → Prop} {memory : μ} {world : ω}

variable {program : Program μ Answer α}

/-- A program that ended satisfies the postcondition, one that was cut the invariant. -/
theorem Keeps.exec_cases (keeps : program.Keeps environment inv post memory world)
    (choices : List Choice) :
    let outcome := program.exec environment choices memory world
    match outcome.1 with
    | some result => post result outcome.2.1 outcome.2.2
    | none => inv outcome.2.1 outcome.2.2 := by
  induction program generalizing memory world choices with
  | done => exact keeps
  | read _ ih => exact ih memory keeps choices
  | assign _ _ ih => exact ih keeps choices
  | await call _ ih =>
    obtain ⟨now, later⟩ := keeps
    cases choices with
    | nil => exact now
    | cons choice rest =>
      have after := later choice
      unfold Program.exec
      generalize environment.perform call choice world = outcome at after ⊢
      cases outcome with
      | answered answer => exact ih answer after rest
      | dropped | crashed => exact after

theorem Keeps.exec (keeps : program.Keeps environment inv post memory world)
    (ended : ∀ result memory world, post result memory world → inv memory world) :
    inv (program.exec environment choices memory world).2.1
      (program.exec environment choices memory world).2.2 := by
  have outcome := keeps.exec_cases choices
  generalize program.exec environment choices memory world = after at outcome ⊢
  obtain ⟨result, memory', world'⟩ := after
  cases result with
  | none => exact outcome
  | some result => exact ended result memory' world' outcome

theorem exec_congr (fresh : other.fresh = environment.fresh)
    (same : ∀ call, ∀ choice ∈ choices, other.perform call choice = environment.perform call choice)
    (memory : μ) (world : ω) :
    program.exec other choices memory world = program.exec environment choices memory world := by
  induction program generalizing choices memory world with
  | done => rfl
  | read _ ih => exact ih memory same memory world
  | assign assigned _ ih => exact ih same assigned world
  | await call _ ih =>
    cases choices with
    | nil => rfl
    | cons choice =>
      have first := same call choice List.mem_cons_self
      have others := fun call later member => same call later (List.mem_cons_of_mem choice member)
      unfold Program.exec
      rw [first]
      cases environment.perform call choice world with
      | answered answer world' => exact ih answer others memory world'
      | dropped => rfl
      | crashed => simp [fresh]

theorem Keeps.bind {post : β → μ → ω → Prop}
    (keeps : program.Keeps environment inv (fun result => (f result).Keeps environment inv post)
      memory world) : (program.bind f).Keeps environment inv post memory world := by
  induction program generalizing memory world with
  | done => exact keeps
  | read _ ih => exact ih memory keeps
  | assign _ _ ih => exact ih keeps
  | await _ _ ih =>
    exact ⟨keeps.1, fun choice => (keeps.2 choice).imp fun answer _ after => ih answer after⟩

theorem Keeps.imp (keeps : program.Keeps environment inv post memory world)
    (weaker : ∀ result memory world, post result memory world → post' result memory world) :
    program.Keeps environment inv post' memory world := by
  induction program generalizing memory world with
  | done result => exact weaker result memory world keeps
  | read _ ih => exact ih memory keeps
  | assign _ _ ih => exact ih keeps
  | await _ _ ih =>
    exact ⟨keeps.1, fun choice => (keeps.2 choice).imp fun answer _ after => ih answer after⟩

/-- The rest runs only if the first part succeeds. -/
theorem Keeps.bindExcept {program : ExceptT ε (Program μ Answer) α}
    {post : Except ε β → μ → ω → Prop}
    (keeps : Program.Keeps environment inv
      (fun result => match result with
        | .ok value => Program.Keeps environment inv post (f value).run
        | .error error => post (.error error))
      program.run memory world) :
    Program.Keeps environment inv post (program >>= f).run memory world := by
  refine Keeps.bind (keeps.imp fun result memory world after => ?_)
  cases result with
  | ok | error => exact after

theorem Keeps.foldlM {f : α → β → ExceptT ε (Program μ Answer) α}
    (round : ∀ acc item memory world, loop memory world →
      Program.Keeps environment inv (fun _ => loop) (f acc item).run memory world)
    (items : List β) (start : loop memory world) :
    Program.Keeps environment inv (fun _ => loop) (items.foldlM f acc).run memory world := by
  induction items generalizing acc memory world with
  | nil => exact start
  | cons item _ ih =>
    refine .bindExcept ((round acc item memory world start).imp fun result _ _ after => ?_)
    cases result with
    | ok => exact ih after
    | error => exact after

end Program
end Vpsman.Lib
