import TestbedWatchdog.Host.Table

namespace TestbedWatchdog

structure Limits where
  failureLimit : UInt32 := 3
  -- failed checks after a reboot that are still waited out; one more brings the next reboot
  rebootLimit : UInt32 := 5
deriving DecidableEq

inductive Phase where
  | failing (failures : UInt32)
  | rebooting (waited : UInt32)
deriving DecidableEq

namespace Phase

def failures : Phase → UInt32
  | failing n => n
  | rebooting _ => 0

def waited : Phase → UInt32
  | failing _ => 0
  | rebooting n => n

def isRebooting : Phase → Bool
  | failing _ => false
  | rebooting _ => true

end Phase

def bump (count : UInt32) : UInt32 := if count = 0xFFFFFFFF then count else count + 1

def Phase.counted : Option Phase → Phase
  | none => .failing 1
  | some (.failing n) => .failing (bump n)
  | some (.rebooting n) => .rebooting (bump n)

inductive EscalationKind where
  | initial
  | again (waited : UInt32)
deriving DecidableEq

structure Escalation where
  host : String
  kind : EscalationKind
deriving DecidableEq

def Escalation.display (escalation : Escalation) : String :=
  match escalation.kind with
  | .initial => escalation.host ++ " (initial)"
  | .again waited => escalation.host ++ " (repeat after " ++ toString waited.toNat ++ " checks)"

structure HostState where
  host : String
  phase : Phase
deriving DecidableEq

structure Ledger where
  phases : HostTable Phase := HostTable.empty
deriving DecidableEq

namespace Ledger

def empty : Ledger := {}

def isEmpty (ledger : Ledger) : Bool := ledger.phases.isEmpty

def size (ledger : Ledger) : Nat := ledger.phases.size

def states (ledger : Ledger) : List HostState := ledger.phases.entries.map fun entry => ⟨entry.1, entry.2⟩

def failing (ledger : Ledger) : HostTable UInt32 :=
  ledger.phases.filterMap fun _ phase =>
    match phase with
    | .failing n => some n
    | .rebooting _ => none

def rebooting (ledger : Ledger) : HostTable UInt32 :=
  ledger.phases.filterMap fun _ phase =>
    match phase with
    | .failing _ => none
    | .rebooting n => some n

def count (unreachable : HostSet) (phases : HostTable Phase) : HostTable Phase :=
  unreachable.hosts.foldl (fun table host => table.insert host (Phase.counted (table.get? host))) phases

def forget (unreachable unknown : HostSet) (phases : HostTable Phase) : HostTable Phase :=
  phases.filter fun host _ => unreachable.contains host || unknown.contains host

def initial? (unreachable : HostSet) (limits : Limits) (host : String) : Phase → Option Escalation
  | .failing n =>
    if unreachable.contains host && limits.failureLimit ≤ n then some ⟨host, .initial⟩ else none
  | .rebooting _ => none

def again? (unreachable : HostSet) (limits : Limits) (host : String) : Phase → Option Escalation
  | .failing _ => none
  | .rebooting n =>
    if unreachable.contains host && limits.rebootLimit < n then some ⟨host, .again n⟩ else none

def due (rule : String → Phase → Option Escalation) (phases : HostTable Phase) : List Escalation :=
  phases.entries.filterMap fun entry => rule entry.1 entry.2

def restart (rule : String → Phase → Option Escalation) (phases : HostTable Phase) : HostTable Phase :=
  phases.map fun host phase => if (rule host phase).isSome then .rebooting 0 else phase

-- Unreachable wins over unknown. The second rule runs on what the first has left, so a host that has
-- just been rebooted for the first time is not rebooted again at once.
def observe (ledger : Ledger) (unreachable unknown : HostSet) (limits : Limits) :
    Ledger × List Escalation :=
  let kept := forget unreachable unknown (count unreachable ledger.phases)
  let first := initial? unreachable limits
  let next := again? unreachable limits
  let started := restart first kept
  (⟨restart next started⟩, due first kept ++ due next started)

end Ledger

end TestbedWatchdog
