/-
A client's session: its merge policy, its own report, and the latest report of
each node. Steps replace parts of the session or merge it, one at a time.
-/

import ReportMerge.Merge.Reconcile

namespace ReportMerge

/-- The three ways to merge: with the bound on nodes, on the caller's promise of sound input, and
with the bound but leaving the client as it is. -/
inductive MergeMode
  | checked
  | promised
  | copied
  deriving DecidableEq

/-- What a merge answers: its figures or, for a client that was handed over, the merged client. -/
inductive MergeReply
  | outcome (outcome : Outcome)
  | report (report : Report)
  deriving DecidableEq

inductive MergeRefusal
  | failure (failure : MergeFailure)
  | brokenPromise (promise : BrokenPromise)
  deriving DecidableEq

/-- A call on the caller's client, of which a copy is handed over where one has to be. -/
def MergeMode.call (mode : MergeMode) (policy : MergePolicy) (nodes : NodeReports) :
    Merging MergeRefusal MergeReply :=
  match mode with
  | .checked => .outcome <$> (policy.mergeInPlace nodes).adapt .failure
  | .promised => .outcome <$> (policy.mergePromisedInPlace nodes).adapt .brokenPromise
  | .copied => do
      let copy ← Merging.client
      .report <$> (policy.mergeOwn copy nodes).adapt .failure

/-- What a way to merge comes to on the client that it merges, its caller's or a copy. -/
def MergeMode.run (mode : MergeMode) (policy : MergePolicy) (client : Report)
    (nodes : NodeReports) : Except MergeFailure Merged :=
  match mode with
  | .promised => policy.mergePromised client nodes
  | .checked | .copied => policy.merge client nodes

abbrev NodeTable := Std.TreeMap NodeIdentity Report compare

/-- The table of a list of reports; of several reports of one node the last is kept. -/
def NodeTable.ofReports (reports : NodeReports) : NodeTable :=
  reports.foldl (fun table entry => table.insert entry.1 entry.2) ∅

structure Session where
  policy : MergePolicy := {}
  client : Report := {}
  nodes : NodeTable := ∅

inductive Step
  | setPolicy (policy : MergePolicy)
  | setClient (report : Report)
  | addRule (rule : Rule)
  | addViolation (violation : Violation)
  | adopt (node : NodeIdentity)
  | setNode (node : NodeIdentity) (report : Report)
  | dropNode (node : NodeIdentity)
  | view
  | compareWith (report : Report)
  | merge (mode : MergeMode)

inductive Answer
  | done
  | replaced (existed : Bool)
  | removed (existed : Bool)
  | view (view : View)
  | compared (equal sameStructure : Bool)
  | merge (result : Except MergeRefusal MergeReply) (told : List Event)

namespace Session

def step (session : Session) : Step → Answer × Session
  | .setPolicy policy => (.done, { session with policy })
  | .setClient client => (.done, { session with client })
  | .addRule rule => (.done, { session with client := session.client.addRule rule })
  | .addViolation violation =>
      (.done, { session with client := session.client.addViolation violation })
  | .adopt node => (.done, { session with nodes := session.nodes.insert node session.client })
  | .setNode node report =>
      (.replaced (session.nodes.contains node),
        { session with nodes := session.nodes.insert node report })
  | .dropNode node =>
      (.removed (session.nodes.contains node), { session with nodes := session.nodes.erase node })
  | .view => (.view session.client.view, session)
  | .compareWith report =>
      (.compared (session.client == report) (session.client.sameStructure report), session)
  | .merge mode =>
      let (result, left) :=
        (mode.call session.policy session.nodes.toList).after { client := session.client }
      (.merge result left.told, { session with client := left.client })

def run (session : Session) : List Step → List Answer × Session
  | [] => ([], session)
  | next :: others =>
      let (answer, session) := session.step next
      let (answers, session) := session.run others
      (answer :: answers, session)

end Session

end ReportMerge
