import Rdc.Lib.LockFiles
import Rdc.Lib.Machine

/-!
# The start of rdcd

Any number of processes may be started, at any time, and each goes through `ExitIfAlreadyRunning`:
it looks at the lock of both lock files, first that of root and then that of the other users, opens
the one that is for it, and takes its lock. Every system call is a step of its own, so processes
interleave between any two of them. A process ends at any time, and then its lock is free. Somebody
may also delete a lock file, as a message of the program suggests.

The lock asked about in `FileIsLocked` is a shared one and the lock taken is exclusive, so the
question is answered with the lock of another process if there is one. A process that is still
asking holds no lock, and closing the file it asked about releases nothing.
-/

namespace Rdc

open LockFiles Machine

/-- `kDaemonLockFileRoot` and `kDaemonLockFile`. -/
inductive LockFile where
  | root
  | user
  deriving DecidableEq

/-- The lock file that is for a process, by whether its effective user is root. -/
def LockFile.ofUser (isRoot : Bool) : LockFile := if isRoot then .root else .user

/-- Which system call a process makes next. -/
inductive StartPlace where
  /-- `open` in `FileIsLocked`. -/
  | opening (lockFile : LockFile)
  /-- `fcntl` with `F_GETLK` in `FileIsLocked`. -/
  | asking (lockFile : LockFile) (fh : Nat)
  /-- `open` with `O_CREAT`. -/
  | creating
  /-- `lockf` with `F_TLOCK`. -/
  | locking (fh : Nat)
  /-- None of the start: the process has the lock and is the daemon. -/
  | running (fh : Nat)
  | exited (code : Nat)
  deriving DecidableEq

/-- What happens to a system call apart from what files and locks make of it, and what `FileOwner`
returns if it is asked. -/
structure StartAnswer where
  succeeds : Bool
  fileOwner : Nat

/-- One step. -/
inductive StartOp (P : Type) where
  | step (p : P) (answer : StartAnswer)
  | exit (p : P) (code : Nat)
  | unlink (lockFile : LockFile)

/-- The disk and the processes. -/
structure Startup (P : Type) where
  disk : Disk LockFile P
  place : P → StartPlace

namespace Startup

variable {P : Type} [DecidableEq P]

/-- No lock file, and nobody has made a system call. -/
def init : Startup P := ⟨Disk.empty, fun _ => .opening .root⟩

/-- Where a process goes when `FileIsLocked` has returned false. -/
def afterCheck : LockFile → StartPlace
  | .root => .opening .user
  | .user => .creating

/-- Put a process to a place. -/
def put (s : Startup P) (disk : Disk LockFile P) (p : P) (place : StartPlace) : Startup P :=
  ⟨disk, Function.update s.place p place⟩

variable (isRoot : P → Bool)

/-- The next system call of a process. -/
def step (s : Startup P) (p : P) (answer : StartAnswer) : Startup P :=
  match s.place p with
  | .opening lockFile =>
    -- with an error other than `ENOENT` there is no file to ask about, and `fcntl` fails
    if answer.succeeds = false then s.put s.disk p (.exited 1)
    else
      match s.disk.file lockFile with
      | none => s.put s.disk p (afterCheck lockFile)
      | some fh => s.put s.disk p (.asking lockFile fh)
  | .asking lockFile fh =>
    if answer.succeeds = false then s.put s.disk p (.exited 1)
    else if s.disk.lockedFor p fh then s.put s.disk p (.exited 1)
    else s.put s.disk p (afterCheck lockFile)
  | .creating =>
    if answer.succeeds = false then
      s.put s.disk p (.exited (if answer.fileOwner ≠ 0 then answer.fileOwner else 1))
    else
      let r := s.disk.openCreate (LockFile.ofUser (isRoot p))
      s.put r.2 p (.locking r.1)
  | .locking fh =>
    if answer.succeeds = false then s.put s.disk p (.exited 0)
    else
      match s.disk.tryLock p fh with
      | none => s.put s.disk p (.exited 0)
      | some disk => s.put disk p (.running fh)
  | .running _ | .exited _ => s

/-- Execute one step. -/
def exec (s : Startup P) : StartOp P → Unit × Startup P
  | .step p answer => ((), s.step isRoot p answer)
  | .exit p code =>
    ((), match s.place p with
      | .exited _ => s
      | _ => s.put (s.disk.endOf p) p (.exited code))
  | .unlink lockFile => ((), { s with disk := s.disk.unlink lockFile })

/-- A process is the daemon. -/
def Running (s : Startup P) (p : P) : Prop := ∃ fh, s.place p = .running fh

/-- A process has not made a system call. -/
def Fresh (s : Startup P) (p : P) : Prop := s.place p = .opening .root

end Startup

/-- Nobody deletes a lock file. -/
def LocksStay {P : Type} (ops : List (StartOp P)) : Prop := ∀ lockFile, .unlink lockFile ∉ ops

end Rdc
