import TestbedWatchdog.Probe.Report
import TestbedWatchdog.Session
import TestbedWatchdog.Text.Json

namespace TestbedWatchdog.Listing

-- Fills up with blanks; what is longer stays whole.
def column (width : Nat) (text : String) : String :=
  text ++ String.ofList (List.replicate (width - text.length) ' ')

def row (host status : String) : String := column 24 host ++ " " ++ column 16 status

def dashes : String := String.ofList (List.replicate 40 '-')

def rows (report : ProbeReport) : List String :=
  (report.statuses.entries.map fun entry => row entry.1 entry.2) ++
    report.missing.hosts.map fun host => row host "-"

def verdict (report : ProbeReport) : String :=
  let listed := toString report.statuses.size
  if report.unreachable.isEmpty then "All " ++ listed ++ " hosts reachable"
  else toString report.unreachable.size ++ " of " ++ listed ++ " hosts unreachable"

def paragraph (lines : List String) : String := String.join (lines.map (· ++ "\n"))

def probeTable (report : ProbeReport) : String :=
  paragraph ([row "HOST" "STATUS", dashes] ++ rows report ++ ["", verdict report])

def names (hosts : HostSet) : Json := .array (hosts.hosts.map .text)

def probeJson (report : ProbeReport) : Json :=
  .object
    [("missing", names report.missing),
     ("statuses", .object (report.statuses.entries.map fun entry => (entry.1, .text entry.2))),
     ("unreachable", names report.unreachable)]

def sessionTable (session : Session) : String :=
  paragraph
    ["Project:         " ++ session.project, "Experiment:      " ++ session.experiment,
     "Materialization: " ++ session.materialization]

def sessionJson (session : Session) : Json :=
  .object
    [("project", .text session.project), ("experiment", .text session.experiment),
     ("materialization", .text session.materialization)]

def probe (json : Bool) (report : ProbeReport) : String :=
  if json then paragraph [(probeJson report).pretty] else probeTable report

def session (json : Bool) (session : Session) : String :=
  if json then paragraph [(sessionJson session).pretty] else sessionTable session

def powerCycled (host : String) : String := paragraph ["Power cycle issued for '" ++ host ++ "'"]

end TestbedWatchdog.Listing
