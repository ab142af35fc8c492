import Judge.Table

/-!
One lock per problem, so that two imports into a problem never overlap. A table keeps a mutex for
each problem, to which the requests for it refer as well; whenever the table is used, the mutexes that
only the table refers to are dropped. At a mutex requests stand in line in the order of their first
poll: the first one has the lock, even before it is polled again, and leaving from any place in the
line hands the lock on.
-/

namespace Judge.Archive

/-- A request for a lock that was not dropped. -/
structure LockRequest where
  problem : Int
  /-- The mutex that the request refers to. -/
  mutex : Int
  /-- Whether the request has become a guard. -/
  held : Bool
  deriving DecidableEq, Repr

/-- Requests have tickets that count up. -/
structure Locks where
  /-- The mutex of each problem. It bears the ticket of the request that made it. -/
  table : Table Int := .empty
  /-- The line at each mutex. -/
  lines : Table (List Int) := .empty
  requests : Table LockRequest := .empty
  /-- The ticket of the next request. -/
  next : Int := 0
  deriving DecidableEq, Inhabited

namespace Locks

/-- The line at a mutex. -/
def line (locks : Locks) (mutex : Int) : List Int := (locks.lines.get? mutex).getD []

/-- How often the table and the requests refer to a mutex. -/
def references (locks : Locks) (mutex : Int) : Nat :=
  locks.table.values.count mutex + (locks.requests.values.map (·.mutex)).count mutex

/-- Drops the mutexes that only the table refers to. -/
def prune (locks : Locks) : Locks :=
  { locks with table := locks.table.filter fun _ mutex => decide (1 < locks.references mutex) }

/-- Starts a request for the lock of a problem and polls it. -/
def request (locks : Locks) (problem : Int) : Int × Locks :=
  let locks := locks.prune
  let ticket := locks.next
  let mutex := (locks.table.get? problem).getD ticket
  let line := locks.line mutex ++ [ticket]
  (ticket,
    { table := locks.table.insert problem mutex
      lines := locks.lines.insert mutex line
      requests := locks.requests.insert ticket
        { problem, mutex, held := line.head? == some ticket }
      next := ticket + 1 })

/-- Whether a request is a guard. -/
def holds (locks : Locks) (ticket : Int) : Bool :=
  (locks.requests.get? ticket).any (·.held)

/-- Polls a request again. -/
def poll (locks : Locks) (ticket : Int) : Locks :=
  match locks.requests.get? ticket with
  | none => locks
  | some request =>
    let held := (locks.line request.mutex).head? == some ticket
    { locks with requests := locks.requests.insert ticket { request with held } }

/-- Drops a guard, or a request that still waits. -/
def drop (locks : Locks) (ticket : Int) : Locks :=
  match locks.requests.get? ticket with
  | none => locks
  | some request =>
    { locks with
      lines := locks.lines.insert request.mutex ((locks.line request.mutex).erase ticket)
      requests := locks.requests.erase ticket }

/-- The number of problems whose lock is held or waited for. -/
def tracked (locks : Locks) : Nat × Locks := (locks.prune.table.size, locks.prune)

end Locks
end Judge.Archive
