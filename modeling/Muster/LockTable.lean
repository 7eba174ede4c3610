import Muster.SortedMap

/-!
One writer per name. Whoever wants to write under a name fetches the lock of the
name and then asks for it: the first to ask holds the lock and later ones wait in
line. A lock that becomes free is kept for the first in line. The table has one
lock for each name in use; a lock is swept out of it when nobody refers to it, and
a later request for its name makes a new lock.
-/

namespace Muster

inductive TicketStage where
  | fetched
  | inLine
  /-- The lock is kept for it, and it has not been told. -/
  | reserved
  | holding
  deriving DecidableEq, Repr

structure Ticket where
  owner : String
  name : String
  lock : Nat
  stage : TicketStage
  deriving DecidableEq, Repr

def Ticket.blocks (ticket : Ticket) : Bool :=
  ticket.stage = .reserved || ticket.stage = .holding

structure LockTable where
  entries : SortedMap String Nat
  /-- Live tickets, in the order in which they last asked for their locks. -/
  tickets : List Ticket
  nextLock : Nat

namespace LockTable

def empty : LockTable := ⟨.empty, [], 0⟩

def size (table : LockTable) : Nat := table.entries.size

def isEmpty (table : LockTable) : Bool := table.entries.isEmpty

def ticket? (table : LockTable) (owner : String) : Option Ticket :=
  table.tickets.find? fun ticket => ticket.owner = owner

def without (table : LockTable) (owner : String) : LockTable :=
  { table with tickets := table.tickets.filter fun ticket => ticket.owner ≠ owner }

def isTaken (table : LockTable) (lock : Nat) : Bool :=
  table.tickets.any fun ticket => ticket.lock = lock && ticket.blocks

def isReferred (table : LockTable) (lock : Nat) : Bool :=
  table.tickets.any fun ticket => ticket.lock = lock

def setStage (stage : TicketStage) (owner : String) (tickets : List Ticket) : List Ticket :=
  tickets.map fun ticket => if ticket.owner = owner then { ticket with stage } else ticket

def handOver (table : LockTable) (lock : Nat) : LockTable :=
  if table.isTaken lock then table
  else
    match table.tickets.find? fun ticket => ticket.lock = lock && ticket.stage = .inLine with
    | none => table
    | some first => { table with tickets := setStage .reserved first.owner table.tickets }

def fetch (table : LockTable) (name owner : String) : LockTable :=
  match table.entries.get? name with
  | some lock => { table with tickets := table.tickets ++ [⟨owner, name, lock, .fetched⟩] }
  | none =>
      { entries := table.entries.insert name table.nextLock
        tickets := table.tickets ++ [⟨owner, name, table.nextLock, .fetched⟩]
        nextLock := table.nextLock + 1 }

def ask (table : LockTable) (owner : String) : LockTable :=
  match table.ticket? owner with
  | none => table
  | some ticket =>
      if ticket.stage = .fetched then
        let stage := if table.isTaken ticket.lock then TicketStage.inLine else .holding
        let rest := table.without owner
        { rest with tickets := rest.tickets ++ [{ ticket with stage }] }
      else table

def claim (table : LockTable) (owner : String) : LockTable :=
  match table.ticket? owner with
  | none => table
  | some ticket =>
      if ticket.stage = .reserved then
        { table with tickets := setStage .holding owner table.tickets }
      else table

def drop (table : LockTable) (owner : String) : LockTable :=
  match table.ticket? owner with
  | none => table
  | some ticket =>
      if ticket.stage = .holding then (table.without owner).handOver ticket.lock else table

def giveUp (table : LockTable) (owner : String) : LockTable :=
  match table.ticket? owner with
  | none => table
  | some ticket =>
      if ticket.stage = .holding then table else (table.without owner).handOver ticket.lock

def sweep (table : LockTable) (name : String) : LockTable :=
  match table.entries.get? name with
  | none => table
  | some lock =>
      if table.isReferred lock then table else { table with entries := table.entries.erase name }

def isHolding (table : LockTable) (owner : String) : Bool :=
  (table.ticket? owner).any fun ticket => ticket.stage = .holding

def lock (table : LockTable) (name owner : String) : LockTable :=
  (table.fetch name owner).ask owner

def release (table : LockTable) (owner : String) : LockTable :=
  match table.ticket? owner with
  | none => table
  | some ticket =>
      if ticket.stage = .holding then (table.drop owner).sweep ticket.name else table

end LockTable

end Muster
