/-
  SerialNumbers.Database.Pool

  Connections to a database, as far as they go without one that answers: the
  options of a session, the one pool that is kept and replaced when another
  database is asked for, and the tries to connect.
-/
import SerialNumbers.Settings
import SerialNumbers.Store.Basic

namespace SerialNumbers.Database

open Number

/-! ## Sessions -/

/-- The name by which the database knows the engine. -/
def applicationName : String := "sequencing"

/-- The options of a session: its name, and universal time. -/
def sessionOptions (application : String) : List (String × Value) :=
  [("application_name", .text application), ("options", .text "-c timezone=UTC")]

/-- The statement that bounds the wait for a lock in one transaction. -/
def lockTimeoutStatement (milliseconds : Int) : String :=
  s!"SET LOCAL lock_timeout = '{milliseconds}ms'"

/-! ## The pool -/

/-- A pool of connections. -/
structure Pool where
  /-- Pools are counted as they are opened. -/
  number : Nat
  address : String
  least : Int
  most : Int
  /-- Seconds to wait for a connection. -/
  timeout : Double
deriving Repr

/-- Opens pools and closes them; the one that was opened last is kept until it is closed. -/
structure PoolKeeper where
  current : Option Pool
  /-- How many pools were opened. -/
  opened : Nat
  /-- The numbers of the pools that were closed, the last one first. -/
  closed : List Nat
deriving Repr

namespace PoolKeeper

def new : PoolKeeper := ⟨none, 0, []⟩

/-- Opens a pool and keeps it. -/
def start (k : PoolKeeper) (address : String) (least most : Int) (timeout : Double) :
    Pool × PoolKeeper :=
  let fresh : Pool := ⟨k.opened, address, least, most, timeout⟩
  (fresh, { k with current := some fresh, opened := k.opened + 1 })

/-- Closes the pool that is kept. -/
def closeAll (k : PoolKeeper) : PoolKeeper :=
  match k.current with
  | none => k
  | some p => { k with current := none, closed := p.number :: k.closed }

/-- The pool for an address: the one that is kept if it is for this address, or else a
    new one; a pool for another address is closed before. -/
def pool (k : PoolKeeper) (address : String) (least most : Int) (timeout : Double) :
    Pool × PoolKeeper :=
  match k.current with
  | some p =>
    if p.address == address then (p, k) else k.closeAll.start address least most timeout
  | none => k.start address least most timeout

/-- The pool was opened and not closed. -/
def isOpen (k : PoolKeeper) (p : Pool) : Bool :=
  p.number < k.opened && !k.closed.contains p.number

/-- The pool that some settings ask for. -/
def poolFor (k : PoolKeeper) (s : Settings) : Pool × PoolKeeper :=
  k.pool s.connectionText s.poolLeast s.poolMost s.poolTimeout

end PoolKeeper

/-! ## Connecting -/

/-- How often a connection that is refused is tried. -/
def maxAttempts : Nat := 3

/-- A connection where nothing listens: how it fails, and after how many tries.  A text
    that the database's own library cannot read is not tried again. -/
def connect (isReadable : String → Bool) (address : String) : Failure × Nat :=
  if isReadable address then (.connectionRefused, maxAttempts)
  else (.badConnectionText, 1)

/-- What a pool's wait for a connection that cannot be had is told as. -/
def waitText (timeout : Double) : String :=
  timeout.fixedText 2 false

/-- The store behind a pool whose database does not answer. -/
def store (s : Settings) (p : Pool) (clock : Time.Moment) : Store :=
  Store.new (.unreachable (waitText p.timeout)) s.lockTimeout clock

end SerialNumbers.Database
