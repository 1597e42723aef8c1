import Flowchart.Dict

/-! # State machines

A machine has a name, tags and states; a state has transitions, each under the name of its event.
States and events keep the order in which they were declared first, and the last declaration under
a name wins.
-/

namespace Flowchart

/-- Where an event leads. -/
structure Transition where
  target : String
  description : Option String := none
  deriving DecidableEq, Repr, Inhabited

/-- One state of a machine. -/
structure MachineState where
  /-- The type of the state, such as `final`. -/
  kind : Option String := none
  tags : List String := []
  description : Option String := none
  /-- The transitions by event. -/
  on : Dict Transition := {}
  deriving Inhabited

/-- A state machine. -/
structure Machine where
  id : String
  tags : List String := []
  states : Dict MachineState := {}
  deriving Inhabited

/-- A state with one more transition. -/
def MachineState.addTransition (s : MachineState) (event : String) (t : Transition) :
    MachineState :=
  { s with on := s.on.insert event t }

/-- A machine with one more state. -/
def Machine.addState (m : Machine) (name : String) (s : MachineState) : Machine :=
  { m with states := m.states.insert name s }

/-- A transition together with the state that it leaves and its event. -/
structure Arc where
  state : String
  event : String
  transition : Transition
  deriving DecidableEq, Repr

namespace Machine

/-- Every transition, in the order of the states and, within a state, of its events. -/
def arcs (m : Machine) : List Arc :=
  m.states.entries.flatMap fun (name, s) =>
    s.on.entries.map fun (event, t) => ⟨name, event, t⟩

/-- Tells whether a transition leads to a state that is not declared. -/
def dangles (m : Machine) (a : Arc) : Bool :=
  !m.states.contains a.transition.target

/-- The transitions that lead to states that are not declared. -/
def danglingArcs (m : Machine) : List Arc :=
  m.arcs.filter m.dangles

/-- The number of transitions. -/
def transitionCount (m : Machine) : Nat :=
  m.arcs.length

end Machine

end Flowchart
