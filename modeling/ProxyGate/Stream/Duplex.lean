import ProxyGate.Stream.Source

/-!
# Two-way transports

A transport has a script for either side: one for its reads, and one that says how it takes the calls
on its write side.  It keeps a record of these calls.  The two sides do not touch each other.
-/

namespace ProxyGate.Stream

/-- A call on the write side, with what is handed over. -/
inductive Call where
  | write (bytes : Bytes)
  | writeVectored (buffers : List Bytes)
  | flush
  | shutdown
deriving DecidableEq, Repr

/-- How a transport takes a call. -/
inductive Reply where
  /-- The call is carried out; a write takes at most so many bytes, if there is a limit. -/
  | ready (limit : Option Nat)
  | failed (reason : String)
  /-- The call has to wait. -/
  | pending
deriving DecidableEq, Repr

/-- The first bytes of a write, as many as are taken. -/
def Reply.taken : Reply → Bytes → Bytes
  | .ready none, bytes => bytes
  | .ready (some limit), bytes => bytes.take limit
  | .failed _, _ | .pending, _ => []

/-- The write side of a transport. -/
structure Outlet where
  /-- The most bytes one write takes behind the end of the script, if there is a limit. -/
  limit : Option Nat := none
  /-- Whether the transport says that it writes several buffers at once. -/
  vectored : Bool := false
  /-- How the next calls are taken; those behind the last are all carried out. -/
  script : List Reply := []
  /-- The calls so far, in order, each with how it was taken. -/
  calls : List (Call × Reply) := []
deriving DecidableEq, Repr

namespace Outlet

/-- How the next call is taken. -/
def reply (outlet : Outlet) : Reply := outlet.script.headD (.ready outlet.limit)

/-- Takes a call, whatever it is. -/
def take (outlet : Outlet) (call : Call) : Reply × Outlet :=
  (outlet.reply, { outlet with
    script := outlet.script.tail
    calls := outlet.calls ++ [(call, outlet.reply)] })

end Outlet

/-- A scripted two-way transport. -/
structure Duplex where
  inlet : Script
  /-- The number of bytes read so far. -/
  taken : Nat := 0
  /-- The number of single reads that data answered. -/
  reads : Nat := 0
  outlet : Outlet := {}
deriving DecidableEq, Repr

namespace Duplex

/-- Reads from a transport. -/
def read : Reader Duplex := fun room duplex =>
  match duplex.inlet.read room with
  | .got wait bytes rest =>
    .got wait bytes { duplex with
      inlet := rest
      taken := duplex.taken + bytes.length
      reads := if duplex.inlet.offersData then duplex.reads + 1 else duplex.reads }
  | .failed wait reason rest => .failed wait reason { duplex with inlet := rest }
  | .never => .never

/-- Adds a step at the end of what is to be read. -/
def push (duplex : Duplex) (step : Step) : Duplex :=
  { duplex with inlet := duplex.inlet ++ [step] }

end Duplex

end ProxyGate.Stream
