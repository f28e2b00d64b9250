import TestbedWatchdog.Host.Table
import TestbedWatchdog.Text.Blank
import TestbedWatchdog.Text.Lines

namespace TestbedWatchdog

structure ProbeReport where
  statuses : HostTable String := HostTable.empty
  missing : HostSet := HostTable.empty
deriving DecidableEq

namespace ProbeReport

def answered : String := "SUCCESS"

-- A word that does not begin with a dot, blanks, a bar, blanks, a word and one more blank: the host is
-- the first word up to its first dot, the status the second word.
def statusLine? (line : List Char) : Option (String × String) :=
  let (name, rest) := Text.word line
  let host := name.takeWhile (· ≠ '.')
  if host.isEmpty then none
  else
    match Text.blanks? rest with
    | some ('|' :: rest) =>
      match Text.blanks? rest with
      | none => none
      | some rest =>
        match Text.word rest with
        | ([], _) | (_, []) => none
        | (status, _ :: _) => some (String.ofList host, String.ofList status)
    | _ => none

-- A failure stays, and so does success until a failure comes.
def note (statuses : HostTable String) (found : String × String) : HostTable String :=
  match statuses.get? found.1 with
  | none => statuses.insert found.1 found.2
  | some status => if status = answered then statuses.insert found.1 found.2 else statuses

def parse (output : String) : ProbeReport :=
  { statuses := ((Text.lines output.toList).filterMap statusLine?).foldl note HostTable.empty }

def isEmpty (report : ProbeReport) : Bool := report.statuses.isEmpty

def unreachable (report : ProbeReport) : HostSet :=
  (report.statuses.filter fun _ status => status ≠ answered).names

-- Each status is handed out once: a host that is listed twice is missing the second time.
def sift : List String → HostTable String → ProbeReport → ProbeReport
  | [], _, found => found
  | host :: rest, left, found =>
    match left.get? host with
    | some status =>
      sift rest (left.erase host) { found with statuses := found.statuses.insert host status }
    | none => sift rest left { found with missing := found.missing.insert host }

def restrictTo (report : ProbeReport) (hosts : List String) : ProbeReport :=
  if hosts.isEmpty then report else sift hosts report.statuses {}

end ProbeReport

end TestbedWatchdog
