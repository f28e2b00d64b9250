import TestbedWatchdog.Proofs.Config.Merging
import TestbedWatchdog.Proofs.Probe.Transcript
import TestbedWatchdog.Proofs.Reporting
import TestbedWatchdog.Proofs.Text.JsonReading

namespace TestbedWatchdog

namespace ProbeReport

variable {report : ProbeReport} {hosts : List String}

theorem worded_restrictTo (named : ∀ host ∈ hosts, Text.IsWord host.toList) (output : String) :
    ((parse output).restrictTo hosts).Worded := by
  constructor
  · intro entry present
    have held := HostTable.get?_eq_some_iff.mpr present
    rw [restrictTo_statuses] at held
    have told := (Option.ite_none_right_eq_some.mp held).2
    have line := parse_reportable output _ (HostTable.get?_eq_some_iff.mp told)
    exact ⟨line.named, line.stated⟩
  · intro host silent
    by_cases listed : hosts = []
    · subst listed
      cases silent
    · rw [← HostTable.contains_iff_mem_hosts, restrictTo_missing_of_any listed] at silent
      exact named host silent.1

def down (report : ProbeReport) : List (String × String) :=
  report.statuses.entries.filter fun entry => entry.2 ≠ answered

theorem unreachable_entries (report : ProbeReport) :
    report.unreachable.entries = report.down.map fun entry => (entry.1, ()) := rfl

theorem unreachable_hosts (report : ProbeReport) : report.unreachable.hosts = report.down.map (·.1) := by
  rw [HostTable.hosts, unreachable_entries, List.map_map]
  rfl

theorem down_eq_nil_iff : report.down = [] ↔ ∀ entry ∈ report.statuses.entries, entry.2 = answered := by
  simp [down, List.filter_eq_nil_iff]

end ProbeReport

theorem Probe.ping_worded (named : ∀ host ∈ hosts, Text.IsWord host.toList)
    (found : (ping tools settings hosts world).value = .ok report) : report.Worded := by
  rw [(ping_judges tools settings hosts world).2] at found
  rcases judge_cases settings hosts (tools (invocation settings) world).1 with
    ⟨error, failed, _⟩ | ⟨output, parsed, _⟩
  · cases failed.symm.trans found
  · cases parsed.symm.trans found
    exact ProbeReport.worded_restrictTo named output

theorem Config.hosts_worded (loaded : loadOrDefault files path? = .ok config)
    (spaceless : ∀ host ∈ config.watchdog.hosts, ∀ c ∈ host.toList, Text.isBlank c = false) :
    ∀ host ∈ config.watchdog.hosts, Text.IsWord host.toList := by
  intro host listed
  refine ⟨fun empty => ?_, spaceless host listed⟩
  have inked := not_isBlank_of_validate (validate_of_loadOrDefault loaded) listed
  rw [isBlank, empty] at inked
  cases inked

namespace Listing

variable {report : ProbeReport}

theorem verdict_reachable (none : report.down = []) :
    verdict report = "All " ++ toString report.statuses.entries.length ++ " hosts reachable" := by
  have all : report.unreachable.isEmpty = true := by
    rw [HostTable.isEmpty, ProbeReport.unreachable_entries, none]
    rfl
  exact if_pos all

theorem verdict_unreachable (some : report.down ≠ []) : verdict report =
    toString report.down.length ++ " of " ++ toString report.statuses.entries.length ++
      " hosts unreachable" := by
  have any : ¬ report.unreachable.isEmpty = true := by
    rw [HostTable.isEmpty, ProbeReport.unreachable_entries]
    simpa using some
  have count : report.unreachable.size = report.down.length := by
    rw [HostTable.size, ProbeReport.unreachable_entries, List.length_map]
  rw [← count]
  exact if_neg any

theorem verdict_reachable_iff (report : ProbeReport) :
    verdict report = "All " ++ toString report.statuses.entries.length ++ " hosts reachable" ↔
      report.down = [] := by
  refine ⟨fun all => ?_, verdict_reachable⟩
  by_contra some
  have letter : "All ".toList = 'A' :: "ll ".toList := by decide
  obtain ⟨c, later, numeral⟩ : ∃ c later, (toString report.down.length).toList = c :: later := by
    refine List.exists_cons_of_ne_nil ?_
    rw [Nat.toString_eq_repr, Nat.toList_repr]
    exact Nat.toDigits_ne_nil
  have digit : c.isDigit = true :=
    numeral_digits report.down.length c (numeral ▸ List.mem_cons_self)
  have texts := congrArg String.toList ((verdict_unreachable some).symm.trans all)
  simp only [String.toList_append, numeral, letter, List.cons_append] at texts
  rw [(List.cons.inj texts).1] at digit
  cases digit

theorem bytes_ascending (table : HostTable α) :
    table.hosts.Pairwise fun earlier later => Text.bytes earlier < Text.bytes later :=
  table.hosts_ascending.imp Text.bytes_lt_iff.mpr

theorem json_reads_back (report : ProbeReport) : Json.read? (probe true report) =
    some (.object
      [("missing", .array (report.missing.hosts.map .text)),
       ("statuses", .object (report.statuses.entries.map fun entry => (entry.1, .text entry.2))),
       ("unreachable", .array (report.down.map fun entry => .text entry.1))]) := by
  have newline : ∀ c ∈ "\n".toList, Json.isSpace c = true := List.all_iff_forall_prop.mp (by decide)
  have line : probe true report = (probeJson report).pretty ++ "\n" := by
    simp [probe, paragraph, String.join_cons]
  rw [line, Json.read?_pretty _ newline, probeJson, names, names, ProbeReport.unreachable_hosts,
    List.map_map]
  rfl

end Listing

namespace Program

variable {around : Surroundings ω} {config : Config} {line other : CommandLine} {args args' : List String}
  {world : ω} {report : ProbeReport}

theorem run_probe (accepted : CommandLine.ofArgs args = .ok line) (probing : line.command = .probe json)
    (loaded : Config.loadOrDefault around.files line.config = .ok config)
    (found : (Probe.ping around.tools config.probe config.watchdog.hosts world).value = .ok report) :
    (run around args world).output = Listing.probe json report := by
  have performed : perform around line =
      showing (Probe.ping around.tools config.probe config.watchdog.hosts) (Listing.probe json) := by
    rw [← probeOnce_eq]
    simp only [perform, probing, loaded, configured]
  have printed : (run around args world).printed = [Listing.probe json report] := by
    refine (run_seen accepted performed fun _ => rfl).trans ?_
    rw [Done.seen, showing_found found, List.filterMap_append]
    exact congrArg (· ++ _) (Probe.ping_silent _ _ _).printed
  rw [Done.output, printed]
  simp [String.join_cons]

-- For any names and statuses without blanks, however long: the table says nothing that the report does not
-- say, in order, and so does the JSON for the same replies of the tools.
theorem table_and_json_tell_the_same_report (accepted : CommandLine.ofArgs args = .ok line)
    (accepted' : CommandLine.ofArgs args' = .ok other) (table : line.command = .probe false)
    (json : other.command = .probe true) (file : other.config = line.config)
    (loaded : Config.loadOrDefault around.files line.config = .ok config)
    (spaceless : ∀ host ∈ config.watchdog.hosts, ∀ c ∈ host.toList, Text.isBlank c = false)
    (found : (Probe.ping around.tools config.probe config.watchdog.hosts world).value = .ok report) :
    let forPeople := (run around args world).output
    let forPrograms := (run around args' world).output
    let told := report.statuses.entries
    let silent := report.missing.hosts
    let down := told.filter fun entry => entry.2 ≠ ProbeReport.answered
    Listing.readRows forPeople =
        told.map (fun entry => [entry.1, entry.2]) ++ silent.map (fun host => [host, "-"]) ∧
      (told.map (·.1)).Pairwise (fun earlier later => Text.bytes earlier < Text.bytes later) ∧
      silent.Pairwise (fun earlier later => Text.bytes earlier < Text.bytes later) ∧
      (Listing.readVerdict forPeople = ["All " ++ toString told.length ++ " hosts reachable"] ↔
        ∀ entry ∈ told, entry.2 = ProbeReport.answered) ∧
      (¬ (∀ entry ∈ told, entry.2 = ProbeReport.answered) → Listing.readVerdict forPeople =
        [toString down.length ++ " of " ++ toString told.length ++ " hosts unreachable"]) ∧
      Json.read? forPrograms = some (.object
        [("missing", .array (silent.map .text)),
         ("statuses", .object (told.map fun entry => (entry.1, .text entry.2))),
         ("unreachable", .array (down.map fun entry => .text entry.1))]) := by
  intro forPeople forPrograms told silent down
  have worded := Probe.ping_worded (Config.hosts_worded loaded spaceless) found
  have people : forPeople = Listing.probeTable report := run_probe accepted table loaded found
  have programs : forPrograms = Listing.probe true report :=
    run_probe accepted' json (file ▸ loaded) found
  rw [people, programs, Listing.readRows_probeTable worded, Listing.readVerdict_probeTable worded,
    ← ProbeReport.down_eq_nil_iff, List.singleton_inj, Listing.json_reads_back]
  refine ⟨?_, Listing.bytes_ascending _, Listing.bytes_ascending _, Listing.verdict_reachable_iff report,
    fun some => congrArg ([·]) (Listing.verdict_unreachable some), rfl⟩
  rw [Listing.shown, List.map_append, List.map_map]
  rfl

def polled (settings output : String) : Surroundings Unit where
  files := ⟨fun _ => true, fun _ => .ok (Text.bytes settings), fun _ _ => ""⟩
  tools := fun _ world => (.ended (.exited 4) (Text.bytes output) [], world)

-- A name that is wider than its column, and a host of which nothing is heard.
theorem long_name_in_both_listings :
    let around := polled "[watchdog]\nhosts = [\"n2\", \"β-of-the-third-rack-by-the-door\", \"n1\"]\n"
      "β-of-the-third-rack-by-the-door.m.e.p | DOWN => x\nn1 | SUCCESS => y\n"
    let forPeople := (run around ["probe"] ()).output
    let forPrograms := (run around ["-v", "probe", "--json"] ()).output
    Listing.readRows forPeople =
        [["n1", "SUCCESS"], ["β-of-the-third-rack-by-the-door", "DOWN"], ["n2", "-"]] ∧
      Listing.readVerdict forPeople = ["1 of 2 hosts unreachable"] ∧
      Json.read? forPrograms = some (.object
        [("missing", .array [.text "n2"]),
         ("statuses", .object
           [("n1", .text "SUCCESS"), ("β-of-the-third-rack-by-the-door", .text "DOWN")]),
         ("unreachable", .array [.text "β-of-the-third-rack-by-the-door"])]) := by
  intro around forPeople forPrograms
  let hosts := ["n2", "β-of-the-third-rack-by-the-door", "n1"]
  let report : ProbeReport :=
    { statuses := (HostTable.empty.insert "n1" "SUCCESS").insert "β-of-the-third-rack-by-the-door" "DOWN"
      missing := HostSet.insert HostTable.empty "n2" }
  have accepted : CommandLine.ofArgs ["probe"] = .ok { command := .probe false } := by decide +kernel
  have accepted' : CommandLine.ofArgs ["-v", "probe", "--json"] =
      .ok { verbose := true, command := .probe true } := by decide +kernel
  have loaded : Config.loadOrDefault around.files none = .ok { watchdog := { hosts := hosts } } := by
    decide +kernel
  have inked : ∀ host ∈ hosts, (host.toList.all fun c => Text.isBlank c = false) = true := by decide +kernel
  have spaceless : ∀ host ∈ hosts, ∀ c ∈ host.toList, Text.isBlank c = false :=
    fun host listed => List.all_iff_forall_prop.mp (inked host listed)
  have found : (Probe.ping around.tools {} hosts ()).value = .ok report := by decide +kernel
  have listed : report.statuses.entries =
      [("n1", "SUCCESS"), ("β-of-the-third-rack-by-the-door", "DOWN")] := by decide +kernel
  obtain ⟨rows, _, _, _, failing, json⟩ := @table_and_json_tell_the_same_report _ around _ _ _ _ _ () _
    accepted accepted' rfl rfl rfl loaded spaceless found
  refine ⟨rows.trans (by decide +kernel), (failing ?_).trans (by decide +kernel), json.trans ?_⟩
  · rw [listed]
    decide
  · rw [listed]
    rfl

end Program

end TestbedWatchdog
