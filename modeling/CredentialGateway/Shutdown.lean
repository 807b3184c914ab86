/-! The signal to shut down. It is given once, and each receiver that was made before it receives it once. -/

namespace CredentialGateway

structure Receiver where
  /-- How many signals come before the next one that it takes. -/
  next : Nat
  deriving DecidableEq, Repr

/-- The signal with the channel over which it is given. The channel holds one signal, and more are never sent. -/
structure Shutdown where
  triggered : Bool
  sent : Nat
  deriving DecidableEq, Repr

namespace Shutdown

def start : Shutdown := ⟨false, 0⟩

/-- Gives the signal. Only the first call has an effect. -/
def trigger (s : Shutdown) : Shutdown := if s.triggered then s else ⟨true, s.sent + 1⟩

/-- A new receiver takes only what is still to be sent. -/
def subscribe (s : Shutdown) : Receiver := ⟨s.sent⟩

/-- A receiver that is made of another one starts afresh, whatever the other one has received. -/
def resubscribe (s : Shutdown) (_ : Receiver) : Receiver := s.subscribe

def receive (s : Shutdown) (r : Receiver) : Bool × Receiver :=
  if r.next < s.sent then (true, ⟨r.next + 1⟩) else (false, r)

end Shutdown

/-- A shutdown with its receivers by number; a receiver that was dropped leaves its number unused. -/
structure ShutdownHub where
  shutdown : Shutdown
  receivers : List (Option Receiver)
  deriving DecidableEq, Repr

namespace ShutdownHub

def start : ShutdownHub := ⟨.start, []⟩

def receiver? (h : ShutdownHub) (i : Nat) : Option Receiver := (h.receivers[i]?).join

def add (h : ShutdownHub) (r : Option Receiver) : Nat × ShutdownHub :=
  (h.receivers.length, { h with receivers := h.receivers ++ [r] })

def subscribe (h : ShutdownHub) : Nat × ShutdownHub := h.add (some h.shutdown.subscribe)

/-- Makes a receiver of another one; of none comes none. -/
def resubscribe (h : ShutdownHub) (i : Nat) : Nat × ShutdownHub :=
  h.add ((h.receiver? i).map h.shutdown.resubscribe)

def trigger (h : ShutdownHub) : ShutdownHub := { h with shutdown := h.shutdown.trigger }

def drop (h : ShutdownHub) (i : Nat) : ShutdownHub := { h with receivers := h.receivers.set i none }

def receive (h : ShutdownHub) (i : Nat) : Option Bool × ShutdownHub :=
  match h.receiver? i with
  | none => (none, h)
  | some r =>
    let (signal, r) := h.shutdown.receive r
    (some signal, { h with receivers := h.receivers.set i (some r) })

end ShutdownHub
end CredentialGateway
