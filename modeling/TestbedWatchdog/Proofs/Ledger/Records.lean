import TestbedWatchdog.Proofs.Ledger.History

namespace TestbedWatchdog

-- Whatever entries there are, the later one of a name over the earlier.
def HostTable.collect (entries : List (String × α)) : HostTable α :=
  entries.foldl (fun table entry => table.insert entry.1 entry.2) empty

def HostState.fresh (host : String) : HostState := ⟨host, .failing 0⟩

def HostState.counted (state : HostState) : HostState :=
  match state.phase with
  | .failing n => { state with phase := .failing (bump n) }
  | .rebooting n => { state with phase := .rebooting (bump n) }

-- A record stands under a key and repeats its name inside. Counting and forgetting go by the key, escalating
-- and the tables go by the name; nothing but the steps themselves keeps the two alike.
abbrev Records := HostTable HostState

namespace Records

def empty : Records := HostTable.empty

def states (records : Records) : List HostState := records.entries.map (·.2)

def collect (pick : Phase → Option UInt32) (records : Records) : HostTable UInt32 :=
  HostTable.collect <| records.states.filterMap fun state => (pick state.phase).map (state.host, ·)

def failing : Records → HostTable UInt32 :=
  collect fun phase =>
    match phase with
    | .failing n => some n
    | .rebooting _ => none

def rebooting : Records → HostTable UInt32 :=
  collect fun phase =>
    match phase with
    | .failing _ => none
    | .rebooting n => some n

def count (unreachable : HostSet) (records : Records) : Records :=
  unreachable.hosts.foldl
    (fun table host => table.insert host ((table.get? host).getD (.fresh host)).counted) records

def forget (unreachable unknown : HostSet) (records : Records) : Records :=
  records.filter fun host _ => unreachable.contains host || unknown.contains host

def due (rule : String → Phase → Option Escalation) (records : Records) : List Escalation :=
  records.states.filterMap fun state => rule state.host state.phase

def restart (rule : String → Phase → Option Escalation) (records : Records) : Records :=
  records.map fun _ state =>
    if (rule state.host state.phase).isSome then { state with phase := .rebooting 0 } else state

def observe (records : Records) (unreachable unknown : HostSet) (limits : Limits) :
    Records × List Escalation :=
  let kept := forget unreachable unknown (count unreachable records)
  let first := Ledger.initial? unreachable limits
  let next := Ledger.again? unreachable limits
  let started := restart first kept
  (restart next started, due first kept ++ due next started)

def after (records : Records) (observations : List Observation) : Records :=
  observations.foldl
    (fun records observation =>
      (records.observe observation.unreachable observation.unknown observation.limits).1)
    records

def Named (records : Records) : Prop := ∀ host state, records.get? host = some state → state.host = host

def labelled (phases : HostTable Phase) : Records := phases.map fun host phase => ⟨host, phase⟩

end Records

namespace HostTable

variable {entries : List (String × α)} {table : HostTable α}

theorem foldl_insert_lookup (distinct : (entries.map (·.1)).Nodup) :
    (entries.foldl (fun table entry => table.insert entry.1 entry.2) table).get? host =
      (entries.lookup host).or (table.get? host) := by
  induction entries generalizing table with
  | nil => rfl
  | cons entry rest ih =>
    obtain ⟨name, value⟩ := entry
    obtain ⟨once, tail⟩ := List.nodup_cons.mp distinct
    rw [List.foldl_cons, ih tail, get?_insert, lookup_cons_eq]
    by_cases same : host = name
    · subst host
      simp [lookup_none_iff.mpr once]
    · simp [same]

theorem collect_entries (table : HostTable α) : collect table.entries = table := by
  refine eq_of_get? fun host => ?_
  rw [collect, foldl_insert_lookup table.hosts_nodup, get?_empty, Option.or_none]
  rfl

end HostTable

namespace Records

variable {phases : HostTable Phase} {ledger : Ledger} {observation : Observation} {host : String}
  {rule : String → Phase → Option Escalation} {unreachable unknown : HostSet}

theorem labelled_get? : (labelled phases).get? host = (phases.get? host).map (⟨host, ·⟩) :=
  HostTable.get?_map

theorem labelled_named (phases : HostTable Phase) : (labelled phases).Named := by
  intro host state found
  rw [labelled_get?] at found
  obtain ⟨phase, _, rfl⟩ := Option.map_eq_some_iff.mp found
  rfl

theorem counted_labelled (phase : Option Phase) :
    ((phase.map fun phase => (⟨host, phase⟩ : HostState)).getD (.fresh host)).counted =
      ⟨host, Phase.counted phase⟩ := by
  match phase with
  | none => rfl
  | some (.failing n) => rfl
  | some (.rebooting n) => rfl

theorem insert_labelled (phase : Phase) :
    (labelled phases).insert host ⟨host, phase⟩ = labelled (phases.insert host phase) := by
  refine HostTable.eq_of_get? fun name => ?_
  rw [HostTable.get?_insert, labelled_get?, labelled_get?, HostTable.get?_insert]
  by_cases same : name = host <;> simp [same]

theorem count_labelled : count unreachable (labelled phases) = labelled (Ledger.count unreachable phases) := by
  refine List.foldl_hom labelled fun table host => ?_
  rw [labelled_get?, counted_labelled, insert_labelled]

theorem forget_labelled :
    forget unreachable unknown (labelled phases) = labelled (Ledger.forget unreachable unknown phases) := by
  refine HostTable.eq_of_get? fun host => ?_
  rw [forget, HostTable.get?_filter, labelled_get?, labelled_get?, Ledger.forget, HostTable.get?_filter]
  cases phases.get? host with
  | none => rfl
  | some phase =>
    by_cases kept : (unreachable.contains host || unknown.contains host) <;> simp [Option.filter, kept]

theorem restart_labelled : restart rule (labelled phases) = labelled (Ledger.restart rule phases) := by
  refine HostTable.eq_of_get? fun host => ?_
  rw [restart, HostTable.get?_map, labelled_get?, labelled_get?, Ledger.restart_get?]
  cases phases.get? host with
  | none => rfl
  | some phase => by_cases due : (rule host phase).isSome <;> simp [due]

theorem states_labelled (ledger : Ledger) : (labelled ledger.phases).states = ledger.states :=
  List.map_map

theorem due_labelled : due rule (labelled phases) = Ledger.due rule phases := by
  unfold due states labelled HostTable.map Ledger.due
  rw [List.map_map, List.filterMap_map]
  rfl

theorem observe_labelled (ledger : Ledger) (unreachable unknown : HostSet) (limits : Limits) :
    let observed := ledger.observe unreachable unknown limits
    (labelled ledger.phases).observe unreachable unknown limits = (labelled observed.1.phases, observed.2) := by
  intro observed
  simp only [observe, count_labelled, forget_labelled, restart_labelled, due_labelled]
  rfl

theorem after_labelled (ledger : Ledger) (observations : List Observation) :
    (labelled ledger.phases).after observations = labelled (ledger.after observations).phases := by
  refine List.foldl_hom (fun ledger : Ledger => labelled ledger.phases) fun ledger observation => ?_
  rw [observe_labelled]
  rfl

theorem collect_labelled (pick : Phase → Option UInt32) :
    collect pick (labelled phases) = phases.filterMap fun _ phase => pick phase := by
  have listed : (labelled phases).states.filterMap (fun state => (pick state.phase).map (state.host, ·)) =
      (phases.filterMap fun _ phase => pick phase).entries := by
    unfold states labelled HostTable.map HostTable.filterMap
    rw [List.map_map, List.filterMap_map]
    rfl
  rw [collect, listed, HostTable.collect_entries]

-- Records that stand under other names than their own are lost in the tables.
example :
    let misplaced : Records := ⟨[("n1", ⟨"n2", .failing 1⟩), ("n2", ⟨"n2", .failing 2⟩)], by decide⟩
    misplaced.size = 2 ∧ misplaced.failing.size + misplaced.rebooting.size = 1 := by
  decide +kernel

end Records

end TestbedWatchdog
