import TestbedWatchdog.Act
import TestbedWatchdog.Config.Settings
import TestbedWatchdog.Probe.Report

namespace TestbedWatchdog

-- A failure means that nothing is known this cycle, never that all hosts are down.
abbrev Probe (ω : Type) := Act ω (Except Error ProbeReport)

namespace Probe

def invocation (settings : ProbeSettings) : Invocation :=
  ⟨settings.program, ["-m", "ping", "-i", settings.inventory, "--one-line", settings.pattern],
    settings.timeout⟩

def firstLine (text : String) : String :=
  String.ofList (((Text.lines text.toList).find? fun line => !Text.allBlank line).getD [])

def noStatus (output : Output) : Error :=
  .probeFailed ("no host status lines in output (" ++ output.status.summary ++ "): " ++
    firstLine output.combined)

-- The tool fails whenever a host is unreachable, so its exit status says nothing.
def read (hosts : List String) (output : Output) : Except Error ProbeReport :=
  let report := ProbeReport.parse output.stdout
  if report.isEmpty then .error (noStatus output) else .ok (report.restrictTo hosts)

def ping (tools : Tools ω) (settings : ProbeSettings) (hosts : List String) :
    Act ω (Except Error ProbeReport) := do
  match ← Act.run tools (invocation settings) with
  | .error error => pure (.error (.probeFailed error.message))
  | .ok output =>
    match read hosts output with
    | .error error => pure (.error error)
    | .ok report =>
      if !report.missing.isEmpty then
        Act.log (.silentHosts report.missing)
      pure (.ok report)

end Probe

end TestbedWatchdog
