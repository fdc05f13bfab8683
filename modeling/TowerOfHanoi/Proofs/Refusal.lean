/-
TowerOfHanoi/Proofs/Refusal.lean

What becomes of an invocation before the first move.  The failures found on
the way are faults of the input or of a file, so a program that ends with one
has the exit code 1, or 2 if the file could not be read (`Refused.exitCode`).

Every invocation asks for help, is refused with an error (`Refused`), or asks
for settings that describe a puzzle (`Asks`); there is no fourth way
(`help_or_refused_or_asks`).  What the program does is then known from which
of the three it is (`run_of_refused`, `run_of_asks`).
-/
import TowerOfHanoi.Program
import TowerOfHanoi.Proofs.Checks

namespace TowerOfHanoi

/-! ### Files and settings -/

/-- A file that cannot be read is a failure of its own kind. -/
theorem Files.failsWith_readText (files : Files) (path : String) :
    FailsWith (·.exitCode = 2) (files.readText path) := by
  unfold readText
  split
  · exact .error rfl
  · split
    · exact .error rfl
    · exact .error rfl
    · exact .error rfl
    · split
      · exact .ok _
      · exact .error rfl

theorem Arguments.failsWith_resolve (a : Arguments) (files : Files) (env : Environment) :
    FailsWith (fun e => e.exitCode = 1 ∨ e.exitCode = 2) (a.resolve files env) := by
  -- the command line cannot fail any more, so what is left is the file, if one is named
  refine .bind ?_ fun _ => .ok _
  unfold fileSettings
  split
  · exact .ok _
  · refine .bind ((files.failsWith_readText _).imp fun _ => .inr) fun text => ?_
    refine .bind ((ConfigFile.failsWith_parse env text).imp fun _ => .inl) fun file => ?_
    exact (Settings.failsWith_apply {} file).imp fun _ => .inl

/-! ### Invocations -/

namespace Program

namespace Invocation

/-- The command line of an invocation asks for a run, and the settings of that run are these. -/
def Asks (i : Invocation) (s : Settings) : Prop :=
  ∃ a, Arguments.parse i.arguments = .ok (.run a) ∧ a.resolve i.files i.environment = .ok s

/-- An invocation fails before its run: its command line cannot be read, its settings cannot be
found out, or they do not describe a puzzle. -/
inductive Refused (i : Invocation) : Error → Prop
  | arguments {fault : ArgumentFault} :
    Arguments.parse i.arguments = .error fault → Refused i (.argument fault)
  | settings {a : Arguments} {e : Error} :
    Arguments.parse i.arguments = .ok (.run a) → a.resolve i.files i.environment = .error e →
      Refused i e
  | puzzle {s : Settings} {e : Error} : i.Asks s → s.puzzle = .error e → Refused i e

variable (i : Invocation)

/-- An invocation asks for help, or is refused, or asks for a puzzle to be played. -/
theorem help_or_refused_or_asks : Arguments.parse i.arguments = .ok .help ∨ (∃ e, i.Refused e) ∨
    ∃ s p, i.Asks s ∧ s.puzzle = .ok p := by
  -- the three checks of `plan`, in its order; what fails is a constructor of `Refused`
  rcases hparse : Arguments.parse i.arguments with fault | ⟨- | a⟩
  · exact .inr (.inl ⟨_, .arguments hparse⟩)
  · exact .inl rfl
  rcases hsettings : a.resolve i.files i.environment with e | s
  · exact .inr (.inl ⟨e, .settings hparse hsettings⟩)
  have hasks : i.Asks s := ⟨a, hparse, hsettings⟩
  rcases hpuzzle : s.puzzle with e | p
  · exact .inr (.inl ⟨e, .puzzle hasks hpuzzle⟩)
  · exact .inr (.inr ⟨s, p, hasks, hpuzzle⟩)

variable {i} {e : Error}

/-- The exit code of a program that is refused is that of a bad input or an unreadable file. -/
theorem Refused.exitCode (h : i.Refused e) : e.exitCode = 1 ∨ e.exitCode = 2 := by
  cases h with
  | arguments _ => exact .inl rfl
  | settings _ hsettings => exact (Arguments.failsWith_resolve ..).of_error hsettings
  | puzzle _ hpuzzle => exact .inl ((Settings.failsWith_puzzle _).of_error hpuzzle)

theorem Refused.plan_eq (h : i.Refused e) : ∃ logger before, plan i = .refuse logger before e := by
  cases h with
  | arguments hparse =>
    rw [plan, hparse]
    exact ⟨_, _, rfl⟩
  | settings hparse hsettings =>
    rw [plan, hparse]
    simp only [planRun, hsettings]
    exact ⟨_, _, rfl⟩
  | puzzle hasks hpuzzle =>
    obtain ⟨a, hparse, hsettings⟩ := hasks
    rw [plan, hparse]
    simp only [planRun, hsettings, hpuzzle]
    exact ⟨_, _, rfl⟩

theorem Asks.plan_eq {s : Settings} {p : Puzzle} (h : i.Asks s) (hpuzzle : s.puzzle = .ok p) :
    ∃ logger, plan i = .play logger s p := by
  obtain ⟨a, hparse, hsettings⟩ := h
  rw [plan, hparse]
  simp only [planRun, hsettings, hpuzzle]
  exact ⟨_, rfl⟩

end Invocation

/-! ### Outcomes -/

variable {i : Invocation}

theorem run_of_help (h : Arguments.parse i.arguments = .ok .help) : (run i).exitCode = 0 := by
  have hplan : plan i = .help := by rw [plan, h]
  rw [run, hplan]

/-- A program that is refused writes nothing to standard output. -/
theorem run_of_refused {e : Error} (h : i.Refused e) :
    (run i).exitCode = e.exitCode ∧ (run i).stdout = i.stdout := by
  obtain ⟨logger, before, hplan⟩ := h.plan_eq
  rw [run, hplan]
  exact ⟨rfl, rfl⟩

/-- A program that is asked for a puzzle ends as the play ends. -/
theorem run_of_asks {s : Settings} {p : Puzzle} (h : i.Asks s) (hpuzzle : s.puzzle = .ok p) :
    (run i).exitCode = exitCode (play s p i.stdout).result ∧
      (run i).stdout = (play s p i.stdout).stdout := by
  obtain ⟨logger, hplan⟩ := h.plan_eq hpuzzle
  rw [run, hplan]
  exact ⟨rfl, rfl⟩

end Program

end TowerOfHanoi
