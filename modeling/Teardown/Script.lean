import Teardown.Host

/-!
# Scripted nodes

Nodes whose answers are laid down in advance: what each call returns or raises, what it changes on
the node, and which calls wait at a gate until the node is released.
-/

namespace Teardown

set_option autoImplicit false

/-- A change of a scripted node. Nothing raised means that the call answers again. -/
inductive Change where
  | name (name : String)
  | idle (flag : Bool)
  | offline (flag : Bool)
  | provisioned (flag : Bool)
  | uptime (duration : Duration)
  | running (duration : Duration)
  | idleFor (duration : Duration)
  | raises (method : NodeCall) (failure : Option Failure)
  | raisesBrokenOff (method : NodeCall) (failure : Option Failure)
  | hook (method : NodeCall) (changes : List Change)
  | gates (methods : List NodeCall)

structure Script where
  id : NodeId
  name : String := "node-1"
  idle : Bool := true
  offline : Bool := false
  provisioned : Bool := true
  uptime : Duration
  running : Duration
  idleFor : Duration
  raises : List (NodeCall × Failure) := []
  raisesBrokenOff : List (NodeCall × Failure) := []
  hooks : List (NodeCall × List Change) := []
  gated : List NodeCall := []
  gateNumber : Nat := 0
  gateOpen : Bool := false
  errorsMade : Nat := 0

namespace Script

def initial (id : NodeId) : Script where
  id := id
  uptime := .twoHours
  running := .twoHours
  idleFor := .zero

def put {Item : Type} (table : List (NodeCall × Item)) (method : NodeCall) (item : Option Item) :
    List (NodeCall × Item) :=
  (item.map (method, ·)).toList ++ table.filter fun entry => entry.1 != method

/-- An error of the node's own is made when it is laid down, and raised each time. -/
def own (script : Script) (failure : Option Failure) : Script × Option Failure :=
  match failure with
  | some (.retention error none) =>
      ({ script with errorsMade := script.errorsMade + 1 },
        some (.retention error (some (.made script.id script.errorsMade))))
  | other => (script, other)

/-- New gates are closed, and calls that wait at the former gate stay there. -/
def apply (script : Script) : Change → Script
  | .name name => { script with name := name }
  | .idle flag => { script with idle := flag }
  | .offline flag => { script with offline := flag }
  | .provisioned flag => { script with provisioned := flag }
  | .uptime duration => { script with uptime := duration }
  | .running duration => { script with running := duration }
  | .idleFor duration => { script with idleFor := duration }
  | .raises method failure =>
      let (made, owned) := script.own failure
      { made with raises := put made.raises method owned }
  | .raisesBrokenOff method failure =>
      let (made, owned) := script.own failure
      { made with raisesBrokenOff := put made.raisesBrokenOff method owned }
  | .hook method changes => { script with hooks := put script.hooks method (some changes) }
  | .gates methods =>
      { script with gated := methods, gateNumber := script.gateNumber + 1, gateOpen := false }

def applyAll (script : Script) (changes : List Change) : Script := changes.foldl apply script

def openGate (script : Script) : Script := { script with gateOpen := true }

def value (script : Script) : (method : NodeCall) → method.Answer
  | .isProvisioned => script.provisioned
  | .isIdle => script.idle
  | .uptime => script.uptime
  | .isOffline => script.offline
  | .running => script.running
  | .idle => script.idleFor
  | .teardown => ()
  | .connect _ => ()

def answer (script : Script) (method : NodeCall) : Script × Except Failure method.Answer :=
  let changed := script.applyAll ((script.hooks.lookup method).getD [])
  match changed.raises.lookup method with
  | some failure => (changed, .error failure)
  | none => (changed, .ok (changed.value method))

def breakOff (script : Script) (method : NodeCall) : Script × Except Failure method.Answer :=
  (script, .error ((script.raisesBrokenOff.lookup method).getD .cancelled))

def waits (script : Script) (method : NodeCall) : Option Nat :=
  if script.gated.contains method && !script.gateOpen then some script.gateNumber else none

def behaviour : Behaviour Script where
  name := Script.name
  waits := waits
  answer := answer
  breakOff := breakOff

end Script

end Teardown
