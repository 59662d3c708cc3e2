/-
Work on the client of a caller. The client is not handed out and back: the work
writes into it where it stands, and what has been written and told by the time
that the work is refused is not undone.
-/

import ReportMerge.Merge.Event

namespace ReportMerge

/-- What a merge finds and leaves: its caller's client, and all that has been told so far. -/
structure Surroundings where
  client : Report
  told : List Event := []
  deriving DecidableEq

def Surroundings.hear (surroundings : Surroundings) (events : List Event) : Surroundings :=
  { surroundings with told := surroundings.told ++ events }

abbrev Merging (ε : Type) := ExceptT ε (StateM Surroundings)

namespace Merging

variable {ε α : Type}

/-- What comes of the work, and what it leaves whether it was refused or not. -/
def after (work : Merging ε α) (before : Surroundings) : Except ε α × Surroundings :=
  StateT.run (ExceptT.run work) before

def client : Merging ε Report := return (← get).client

def tell (event : Event) : Merging ε Unit := modify fun now => now.hear [event]

def writeRules (rules : List Rule) : Merging ε Unit :=
  modify fun now => { now with client := { now.client with rules } }

def writeViolations (violations : List Violation) : Merging ε Unit :=
  modify fun now => { now with client := { now.client with violations } }

/-- Work on a client of its own. What it tells is heard, the caller's client is out of its reach. -/
def onOwn (own : Report) (work : Merging ε α) : Merging ε α :=
  ExceptT.mk fun before =>
    let (answer, left) := work.after { before with client := own }
    (answer, { left with client := before.client })

end Merging

end ReportMerge
