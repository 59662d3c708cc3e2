/-
The one subscriber of a process that writes log lines. It is installed by the
first request whose filter is well formed; every later request is refused and
changes nothing.
-/

import ReportMerge.Settings.Basic
import ReportMerge.Telemetry.Filter
import ReportMerge.Text.Terminal

namespace ReportMerge

structure Subscriber where
  filter : Filter
  json : Bool

inductive InstallFailure
  | invalidFilter (fault : DirectiveFault)
  | alreadyInstalled
  deriving DecidableEq

def InstallFailure.message : InstallFailure → String
  | .invalidFilter fault => "Failed to install tracing subscriber: " ++ fault.message
  | .alreadyInstalled =>
      "Failed to install tracing subscriber: a global default trace dispatcher has already been set"

structure LogLine where
  json : Bool
  level : Level
  target : String
  message : String
  deriving DecidableEq

def mergeTarget : String := "flowrec_cluster::merge"

def mergeFields : List (List Char) := ["message".toList]

/-- The filter that a request asks for: that of the environment if it has one that is well formed,
and that of the settings otherwise. -/
def LogSettings.filter (environment : Option String) (log : LogSettings) :
    Except DirectiveFault Filter :=
  match environment.map Filter.ofText with
  | some (.ok filter) => .ok filter
  | _ => Filter.ofText log.level

/-- The answer to a request, and the subscriber that is installed afterwards. An ill-formed filter
is reported before an earlier installation is. -/
def install (environment : Option String) (installed : Option Subscriber) (log : LogSettings) :
    Except InstallFailure Unit × Option Subscriber :=
  match log.filter environment, installed with
  | .error fault, _ => (.error (.invalidFilter fault), installed)
  | .ok _, some subscriber => (.error .alreadyInstalled, some subscriber)
  | .ok filter, none => (.ok (), some { filter, json := log.json })

def installAll (environment : Option String) (installed : Option Subscriber) :
    List LogSettings → List (Except InstallFailure Unit) × Option Subscriber
  | [] => ([], installed)
  | log :: others =>
      let (answer, installed) := install environment installed log
      let (answers, installed) := installAll environment installed others
      (answer :: answers, installed)

def Subscriber.messageOf (subscriber : Subscriber) (event : Event) : String :=
  if subscriber.json then event.message else Text.forTerminal event.message

def Subscriber.lines (subscriber : Subscriber) (events : List Event) : List LogLine :=
  let threshold := subscriber.filter.thresholdFor mergeTarget.toList mergeFields
  (events.filter fun event => threshold.admits event.level).map fun event =>
    { json := subscriber.json
      level := event.level
      target := mergeTarget
      message := subscriber.messageOf event }

def emitted (installed : Option Subscriber) (events : List Event) : List LogLine :=
  match installed with
  | none => []
  | some subscriber => subscriber.lines events

end ReportMerge
