import CppRcp.Foundation.Runs

/-!
# The buffer pool and its loans

`loan.hpp`, with the `Loan` of `rcp.hpp` and the fault injector of `alloc.hpp`.
A call of `loan` looks at the closed flag, then searches the free list under
its lock, then allocates where it found nothing and hands a `Loan` out, and
other calls may come between.  A buffer is a number, and the heap tells what
it contains while it has not been deleted.
-/

namespace CppRcp.Host.Loan

open CppRcp.Foundation

def poolMaxEntries : Nat := 64

inductive LoanErrc
  | closed | invalidArgument | simulatedAllocationFailure
  deriving DecidableEq, Repr

/-- `remaining` is negative while it is armed for ever. -/
structure FaultInjector where
  remaining : Int := 0
  deriving DecidableEq, Repr

def FaultInjector.shouldFail (injector : FaultInjector) :
    FaultInjector × Bool :=
  if injector.remaining = 0 then (injector, false)
  else if 0 < injector.remaining then (⟨injector.remaining - 1⟩, true)
  else (injector, true)

abbrev Buffer := Nat

abbrev Heap := Buffer → Option (List UInt8)

structure Impl where
  closed : Bool := false
  entries : List Buffer := []
  entries_le : entries.length ≤ poolMaxEntries := by decide

/-- A loan has its own copy of the payload, and the buffer that its release
closure gives back. -/
structure Loan where
  payload : List UInt8 := []
  release : Option Buffer := none
  deriving DecidableEq, Repr

/-- How far a call of `loan` is, and then the `Loan` it has handed out. -/
inductive Stage
  | checked (size : Nat)
  | searched (size : Nat) (raw : Option Buffer)
  | failed (error : LoanErrc)
  | loaned (loan : Loan)
  | destroyed
  deriving DecidableEq, Repr

def Stage.held : Stage → Option Buffer
  | .searched _ raw => raw
  | .loaned loan => loan.release
  | _ => none

def Stage.inCall : Stage → Bool
  | .checked _ | .searched _ _ => true
  | _ => false

/-- The pool's own state: its free list and the buffers. -/
structure Pool where
  impl : Impl := {}
  heap : Heap := fun _ => none

structure World where
  pool : Pool := {}
  /-- The next address that the allocator gives. -/
  next : Buffer := 0
  injector : Option FaultInjector := none
  /-- The `BufferPool` object has not been destroyed. -/
  wrapper : Bool := true
  calls : List Stage := []

/-- A loan assigned over another one destroys that one next. -/
inductive Op
  | loan (size : Int)
  | search (call : Nat)
  | finish (call : Nat)
  | ret (call : Nat)
  | destroy (call : Nat)
  | move (call : Nat)
  | write (call : Nat) (payload : List UInt8)
  | close
  | destroyPool
  | arm (count : Int)
  deriving DecidableEq, Repr

namespace Pool

variable (pool : Pool)

/-- Take the first entry that is large enough; the last one goes to its
place. -/
def search (size : Nat) : Pool × Option Buffer :=
  let large (raw : Buffer) : Bool :=
    decide (size ≤ ((pool.heap raw).getD []).length)
  match pool.impl.entries.findIdx? large with
  | none => (pool, none)
  | some i =>
      let last := pool.impl.entries.getLastD 0
      ({ pool with
          impl :=
            { closed := pool.impl.closed
              entries := (pool.impl.entries.set i last).dropLast
              entries_le := by
                rw [List.length_dropLast, List.length_set]
                exact (Nat.sub_le ..).trans pool.impl.entries_le } },
        pool.impl.entries[i]?)

def giveBack (raw : Buffer) : Pool :=
  if h : pool.impl.entries.length < poolMaxEntries then
    { pool with
      impl :=
        { closed := pool.impl.closed
          entries := pool.impl.entries ++ [raw]
          entries_le := by rw [List.length_append]; exact h } }
  else { pool with heap := Function.update pool.heap raw none }

def release (buffer : Option Buffer) : Pool :=
  match buffer with
  | none => pool
  | some raw => pool.giveBack raw

def close : Pool :=
  { pool with impl := { pool.impl with closed := true } }

/-- `~Impl` deletes what is in the free list. -/
def tearDown : Pool where
  impl := { closed := pool.impl.closed }
  heap raw := if raw ∈ pool.impl.entries then none else pool.heap raw

end Pool

namespace World

variable (world : World)

/-- Once the last owner of `impl_` has gone, so has `Impl`. -/
def collect : World :=
  if world.wrapper || world.calls.any fun stage => stage.held.isSome then world
  else { world with pool := world.pool.tearDown }

def setCall (call : Nat) (stage : Stage) : World :=
  { world with calls := world.calls.set call stage }

def addCall (stage : Stage) : World :=
  { world with calls := world.calls ++ [stage] }

/-- The tests that `loan` begins with. -/
def startLoan (size : Int) : World × Option (Except LoanErrc (List UInt8)) :=
  if !world.wrapper then (world, none)
  else if world.pool.impl.closed then
    (world.addCall (.failed .closed), some (.error .closed))
  else if size < 0 then
    (world.addCall (.failed .invalidArgument), some (.error .invalidArgument))
  else (world.addCall (.checked size.toNat), none)

def shouldFail : World × Bool :=
  match world.injector with
  | none => (world, false)
  | some injector =>
      let asked := injector.shouldFail
      ({ world with injector := some asked.1 }, asked.2)

def handOut (call size : Nat) (raw : Buffer) :
    World × Option (Except LoanErrc (List UInt8)) :=
  let vector : List UInt8 := List.replicate size 0
  let payload := vector
  ({ world with
      pool :=
        { world.pool with
          heap := Function.update world.pool.heap raw (some vector) }
      calls := world.calls.set call
        (.loaned { payload, release := some raw }) },
    some (.ok payload))

def finishLoan (call size : Nat) (raw : Option Buffer) :
    World × Option (Except LoanErrc (List UInt8)) :=
  match raw with
  | some raw => world.handOut call size raw
  | none =>
      let asked := world.shouldFail
      if asked.2 then
        (asked.1.setCall call (.failed .simulatedAllocationFailure),
          some (.error .simulatedAllocationFailure))
      else
        { asked.1 with next := world.next + 1 }.handOut call size world.next

def step : Op → World × Option (Except LoanErrc (List UInt8))
  | .loan size => world.startLoan size
  | .search call =>
      match world.calls[call]? with
      | some (.checked size) =>
          let found := world.pool.search size
          ({ world with pool := found.1 }.setCall call
            (.searched size found.2), none)
      | _ => (world, none)
  | .finish call =>
      match world.calls[call]? with
      | some (.searched size raw) => world.finishLoan call size raw
      | _ => (world, none)
  | .ret call =>
      match world.calls[call]? with
      | some (.loaned loan) =>
          (({ world with pool := world.pool.release loan.release }.setCall call
            (.loaned { loan with release := none })).collect, none)
      | _ => (world, none)
  | .destroy call =>
      match world.calls[call]? with
      | some (.loaned loan) =>
          (({ world with pool := world.pool.release loan.release }.setCall call
            .destroyed).collect, none)
      | _ => (world, none)
  | .move call =>
      match world.calls[call]? with
      | some (.loaned loan) =>
          ((world.setCall call (.loaned {})).addCall (.loaned loan), none)
      | _ => (world, none)
  | .write call payload =>
      match world.calls[call]? with
      | some (.loaned loan) =>
          (world.setCall call (.loaned { loan with payload }), none)
      | _ => (world, none)
  | .close =>
      if world.wrapper then ({ world with pool := world.pool.close }, none)
      else (world, none)
  | .destroyPool =>
      -- No call may be in progress on the object.
      if !world.wrapper || world.calls.any Stage.inCall then (world, none)
      else
        ({ world with pool := world.pool.close, wrapper := false }.collect,
          none)
  | .arm count =>
      ({ world with injector := world.injector.map fun _ => ⟨count⟩ }, none)

end World

end CppRcp.Host.Loan
