/-
TowerOfHanoi/Board.lean

The board.  Three stacks of disks, top first, on which a move is either made
or refused with the obstacle that stands in its way.  A board is changed in
place: the disk is taken off one rod, put on another, and counted.  Replaying
a list of moves stops at the first refusal.
-/
import TowerOfHanoi.Move
import TowerOfHanoi.Puzzle

namespace TowerOfHanoi

/-- The disks on the three rods of a puzzle, each stack top first, with the number of moves made
so far. -/
structure Board where
  disks : DiskCount
  rods : Rods
  source : List Nat
  target : List Nat
  spare : List Nat
  applied : UInt64
deriving DecidableEq

/-- The tower of the disks `1` to `n`, smallest on top. -/
def tower (n : Nat) : List Nat :=
  List.range' 1 n

namespace Board

/-- The board before the first move: the whole tower on the source rod. -/
def start (p : Puzzle) : Board :=
  ⟨p.disks, p.rods, tower p.disks.count, [], [], 0⟩

/-- The stack on the rod of a role, top first. -/
def stack (b : Board) : Role → List Nat
  | .source => b.source
  | .target => b.target
  | .spare => b.spare

/-- The board with the stack of one role replaced. -/
def setStack (b : Board) (stack : List Nat) : Role → Board
  | .source => { b with source := stack }
  | .target => { b with target := stack }
  | .spare => { b with spare := stack }

/-- The rods that a move leaves and enters, or the first obstacle found. -/
def check (b : Board) (m : Move) : Except Error (Role × Role) :=
  let refuse (obstacle : Obstacle) : Except Error (Role × Role) :=
    .error (.illegalMove m.disk m.source.label m.target.label obstacle)
  match b.rods.role? m.source with
  | none => refuse (.absentRod m.source.label)
  | some leaving =>
    match b.rods.role? m.target with
    | none => refuse (.absentRod m.target.label)
    | some entering =>
      if leaving = entering then refuse .sameRod
      else
        match b.stack leaving with
        | [] => refuse .emptySource
        | top :: _ =>
          if top ≠ m.disk then refuse (.covered top)
          else
            match b.stack entering with
            | [] => .ok (leaving, entering)
            | below :: _ =>
              if below < m.disk then refuse (.smallerBelow below) else .ok (leaving, entering)

/-! ### Changes in place -/

/-- A change to a board, made in place: one that fails leaves behind what it has done so far. -/
abbrev Change := ExceptT Error (StateM Board)

/-- Takes the top disk off the rod of a role, if there is one. -/
def pop (role : Role) : Change (Option Nat) := do
  let b ← get
  match b.stack role with
  | [] => return none
  | top :: rest =>
    set (b.setStack rest role)
    return some top

/-- Puts a disk on top of the rod of a role. -/
def push (disk : Nat) (role : Role) : Change Unit :=
  modify fun b => b.setStack (disk :: b.stack role) role

/-- Makes a move: the disk on top of one rod is put on another, and the move is counted. -/
def make (m : Move) : Change Unit := do
  let (leaving, entering) ← (← get).check m
  if let some disk ← pop leaving then push disk entering
  modify fun b => { b with applied := b.applied + 1 }

/-- Makes a move, with what is left of the board in any case. -/
def perform (b : Board) (m : Move) : Except Error Unit × Board :=
  (make m).run b

/-- The board after a move that is not refused. -/
def apply (b : Board) (m : Move) : Except Error Board :=
  match b.perform m with
  | (.error e, _) => .error e
  | (.ok (), b) => .ok b

/-! ### Plays -/

/-- Carries out the moves in order, up to the first refusal. -/
def replay (b : Board) : List Move → Except Error Board
  | [] => .ok b
  | m :: ms =>
    match b.apply m with
    | .error e => .error e
    | .ok b => b.replay ms

/-- The stack on a rod, top first; a rod that is not on the board holds nothing. -/
def disksOn (b : Board) (p : Peg) : List Nat :=
  match b.rods.role? p with
  | none => []
  | some role => b.stack role

/-- The target rod holds as many disks as there are. -/
def isSolved (b : Board) : Bool :=
  b.target.length == b.disks.count

/-- Fails unless the target rod holds all disks. -/
def ensureSolved (b : Board) : Except Error Unit :=
  if b.isSolved then .ok () else .error (.unsolved b.disks.count b.rods.target.label)

end Board

end TowerOfHanoi
