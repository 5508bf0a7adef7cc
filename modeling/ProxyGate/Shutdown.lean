import ProxyGate.Watch

/-!
# The shutdown signal

One coordinator and any number of signals, which watch one value of the coordinator's: whether
shutdown was triggered.  It is set and never cleared.  A signal that waits goes on when the value is
set or the coordinator is gone, so whoever subscribes late, or asks again, misses nothing.
-/

namespace ProxyGate

/-- A signal that is still there. -/
structure Signal where
  /-- The version of the value that it saw last. -/
  seen : Nat
  /-- The wait that it began and has not given up. -/
  wait : Option Watch.Wait := none
deriving DecidableEq, Repr

namespace Signal

/-- Goes on with a wait as far as it gets: whether it is over, and the signal after it. -/
def attempt (signal : Signal) (watch : Watch Bool) (wait : Watch.Wait) : Bool × Signal :=
  match watch.poll id signal.seen wait with
  | .over _ seen => (true, ⟨seen, none⟩)
  | .pending wakes seen => (false, ⟨seen, some (.asleep wakes)⟩)

/-- Begins a wait, asks once whether it is over, and gives it up. -/
def poll (signal : Signal) (watch : Watch Bool) : Bool × Signal :=
  let (ready, signal) := signal.attempt watch (.looking false)
  (ready, { signal with wait := none })

/-- Goes on with the wait that was begun, or begins one. -/
def resume (signal : Signal) (watch : Watch Bool) : Bool × Signal :=
  signal.attempt watch (signal.wait.getD (.looking false))

end Signal

/-- A coordinator and its signals, in the order in which they were made. -/
structure Shutdown where
  /-- Whether shutdown was triggered. -/
  watch : Watch Bool := { value := false }
  /-- A signal that was dropped leaves its place empty. -/
  signals : List (Option Signal) := []
deriving DecidableEq, Repr

namespace Shutdown

/-- What can be asked of a coordinator and its signals. -/
inductive Request where
  /-- The coordinator makes a signal. -/
  | subscribe
  /-- A signal makes another one. -/
  | clone (signal : Nat)
  /-- The coordinator triggers the shutdown. -/
  | trigger
  | dropCoordinator
  /-- A signal begins a wait and asks once whether it is over. -/
  | poll (signal : Nat)
  /-- A signal goes on with the wait that it began, or begins one, and keeps it. -/
  | resume (signal : Nat)
  /-- A signal asks whether the shutdown was triggered. -/
  | isTriggered (signal : Nat)
  | drop (signal : Nat)
deriving DecidableEq, Repr

/-- What is answered. -/
inductive Reply where
  /-- A signal with this number was made. -/
  | signal (number : Nat)
  /-- Whether the wait is over. -/
  | ready (value : Bool)
  /-- Whether the shutdown was triggered. -/
  | triggered (value : Bool)
  | done
  /-- The coordinator is gone. -/
  | noCoordinator
  /-- The signal was dropped or never made. -/
  | noSignal
deriving DecidableEq, Repr

/-- Whether the shutdown was triggered. -/
def triggered (shutdown : Shutdown) : Bool := shutdown.watch.value

/-- Whether the coordinator is still there. -/
def coordinated (shutdown : Shutdown) : Bool := !shutdown.watch.closed

/-- The signal with a number, unless it was dropped. -/
def signal? (shutdown : Shutdown) (number : Nat) : Option Signal :=
  (shutdown.signals[number]?).join

/-- The number of signals that are still there, as the coordinator knows it. -/
def receivers (shutdown : Shutdown) : Nat := shutdown.watch.watchers

/-- Whether a signal that waits may go on. -/
def isOver (shutdown : Shutdown) : Bool :=
  shutdown.triggered || !shutdown.coordinated

/-- Makes a signal that has seen the value up to a version. -/
def addSignal (shutdown : Shutdown) (seen : Nat) : Reply × Shutdown :=
  (.signal shutdown.signals.length,
    { shutdown with
      watch := shutdown.watch.join
      signals := shutdown.signals ++ [some { seen }] })

/-- Replaces a signal. -/
def setSignal (shutdown : Shutdown) (number : Nat) (signal : Signal) : Shutdown :=
  { shutdown with signals := shutdown.signals.set number (some signal) }

/-- Drops a signal. -/
def dropSignal (shutdown : Shutdown) (number : Nat) : Shutdown :=
  { shutdown with
    watch := shutdown.watch.leave
    signals := shutdown.signals.set number none }

/-- Carries out one request. -/
def step (shutdown : Shutdown) : Request → Reply × Shutdown
  | .subscribe =>
    if shutdown.coordinated then shutdown.addSignal shutdown.watch.version
    else (.noCoordinator, shutdown)
  | .clone number =>
    match shutdown.signal? number with
    | some signal => shutdown.addSignal signal.seen
    | none => (.noSignal, shutdown)
  | .trigger =>
    if shutdown.coordinated then (.done, { shutdown with watch := shutdown.watch.put true })
    else (.noCoordinator, shutdown)
  | .dropCoordinator =>
    if shutdown.coordinated then (.done, { shutdown with watch := shutdown.watch.close })
    else (.done, shutdown)
  | .poll number =>
    match shutdown.signal? number with
    | some signal =>
      let (ready, next) := signal.poll shutdown.watch
      (.ready ready, shutdown.setSignal number next)
    | none => (.noSignal, shutdown)
  | .resume number =>
    match shutdown.signal? number with
    | some signal =>
      let (ready, next) := signal.resume shutdown.watch
      (.ready ready, shutdown.setSignal number next)
    | none => (.noSignal, shutdown)
  | .isTriggered number =>
    match shutdown.signal? number with
    | some _ => (.triggered shutdown.triggered, shutdown)
    | none => (.noSignal, shutdown)
  | .drop number =>
    match shutdown.signal? number with
    | some _ => (.done, shutdown.dropSignal number)
    | none => (.noSignal, shutdown)

/-- Carries out requests in order: each reply with the state after it. -/
def run (shutdown : Shutdown) : List Request → List (Reply × Shutdown)
  | [] => []
  | request :: rest =>
    let (reply, next) := shutdown.step request
    (reply, next) :: next.run rest

end Shutdown

end ProxyGate
