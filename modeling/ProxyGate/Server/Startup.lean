import ProxyGate.Listener.Fault

/-!
# Opening the listeners

The listeners of a configuration are opened one after the other, and the first that cannot be opened
ends the start.  `bindings` is what the configuration alone decides; what the host itself may
refuse, such as an address in use, is not decided there.  `openOn` opens listeners on a host, which
is asked for each of them in turn.
-/

namespace ProxyGate.Server

/-- Why a server does not start. -/
inductive StartFault where
  /-- The address of a listener cannot be read. -/
  | badAddress (index : Nat) (fault : BindAddress.Fault)
  /-- The listener at an address cannot be opened. -/
  | badListener (address : Address.Socket) (fault : Listener.Fault)
deriving DecidableEq, Repr

/-- The sentence that reports why a server does not start. -/
def StartFault.message : StartFault → String
  | .badAddress index fault =>
    "listener " ++ String.ofList (Text.decimal index) ++ ": " ++ fault.message
  | .badListener address fault => "listener " ++ address.text ++ ": " ++ fault.message

/-- Opens one listener. -/
def openListener (index : Nat) (listener : Config.Listener) : Except StartFault Config.Binding :=
  match listener.resolve with
  | .error fault => .error (.badAddress index fault)
  | .ok binding =>
    match Listener.checkLimit binding.maxConnections with
    | .error fault => .error (.badListener binding.address fault)
    | .ok () => .ok binding

/-- Opens listeners in order, the first of them with the given index. -/
def openFrom (index : Nat) : List Config.Listener → Except StartFault (List Config.Binding)
  | [] => .ok []
  | listener :: rest => do
    let binding ← openListener index listener
    return binding :: (← openFrom (index + 1) rest)

/-- Opens the listeners of a configuration. -/
def bindings (config : Config) : Except StartFault (List Config.Binding) :=
  openFrom 0 config.listeners

/-- Why the listeners of a configuration cannot all be opened on a host. -/
inductive OpenFault where
  /-- A listener is refused before the host is asked. -/
  | start (fault : StartFault)
  /-- The host refuses an address. -/
  | host (address : Address.Socket) (reason : String)
deriving DecidableEq, Repr

section Host

variable {m : Type → Type} [Monad m] {α : Type}

/-- Opens listeners on a host in order, the first of them with the given index. -/
def openOnFrom (ask : Config.Binding → m (Except String α)) (index : Nat) :
    List Config.Listener → m (Except OpenFault (List α))
  | [] => return .ok []
  | listener :: rest =>
    match openListener index listener with
    | .error fault => return .error (.start fault)
    | .ok binding => do
      match ← ask binding with
      | .error reason => return .error (.host binding.address reason)
      | .ok opened => return (← openOnFrom ask (index + 1) rest).map (opened :: ·)

/-- Opens the listeners of a configuration on a host. -/
def openOn (ask : Config.Binding → m (Except String α)) (config : Config) :
    m (Except OpenFault (List α)) :=
  openOnFrom ask 0 config.listeners

end Host

end ProxyGate.Server
