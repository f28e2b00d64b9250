import Mathlib.Data.List.Sort
import Mathlib.Tactic.Tauto
import TestbedWatchdog.Host.Table

namespace TestbedWatchdog.HostTable

theorem hosts_ascending (table : HostTable α) : table.hosts.Pairwise (· < ·) :=
  table.ascending.map _ fun _ _ before => before

theorem hosts_nodup (table : HostTable α) : table.hosts.Nodup :=
  table.hosts_ascending.imp String.ne_of_lt

theorem lookup_cons_eq {entries : List (String × α)} :
    (entry :: entries).lookup host = if host = entry.1 then some entry.2 else entries.lookup host := by
  obtain ⟨name, value⟩ := entry
  rw [List.lookup_cons]
  by_cases same : host = name
  · simp [same]
  · have test : (host == name) = false := beq_eq_false_iff_ne.mpr same
    simp [test, same]

theorem lookup_none_iff {entries : List (String × α)} :
    entries.lookup host = none ↔ host ∉ entries.map (·.1) := by
  rw [List.lookup_eq_none_iff, List.mem_map, not_exists]
  refine forall_congr' fun entry => ?_
  rw [not_and, bne_iff_ne, eq_comm (a := entry.1)]

theorem lookup_of_nodup {entries : List (String × α)} (distinct : (entries.map (·.1)).Nodup) :
    entries.lookup host = some value ↔ (host, value) ∈ entries := by
  induction entries with
  | nil => simp
  | cons first rest ih =>
    obtain ⟨name, held⟩ := first
    obtain ⟨once, tail⟩ := List.nodup_cons.mp distinct
    by_cases same : host = name
    · subst host
      have absent : (name, value) ∉ rest := fun later =>
        once (List.mem_map.mpr ⟨(name, value), later, rfl⟩)
      simp [absent, eq_comm]
    · simp [lookup_cons_eq, same, ih tail]

theorem get?_eq_some_iff {table : HostTable α} :
    table.get? host = some value ↔ (host, value) ∈ table.entries :=
  lookup_of_nodup table.hosts_nodup

theorem contains_iff {table : HostTable α} :
    table.contains host = true ↔ ∃ value, table.get? host = some value := by
  simp [contains, Option.isSome_iff_exists]

theorem contains_iff_mem_hosts {table : HostTable α} :
    table.contains host = true ↔ host ∈ table.hosts := by
  simp [contains_iff, hosts, get?_eq_some_iff]

theorem mem_hosts_iff {table : HostTable α} :
    host ∈ table.hosts ↔ ∃ value, table.get? host = some value := by
  rw [← contains_iff_mem_hosts, contains_iff]

theorem hosts_eq_of_known {one : HostTable α} {two : HostTable β}
    (same : ∀ host, one.get? host = none ↔ two.get? host = none) : one.hosts = two.hosts := by
  refine one.hosts_ascending.eq_of_mem_iff two.hosts_ascending fun host => ?_
  rw [mem_hosts_iff, mem_hosts_iff, ← Option.ne_none_iff_exists', ← Option.ne_none_iff_exists']
  exact not_congr (same host)

theorem eq_of_get? {one two : HostTable α} (same : ∀ host, one.get? host = two.get? host) : one = two := by
  have known (entry : String × α) : entry ∈ one.entries ↔ entry ∈ two.entries := by
    have found := congrArg (· = some entry.2) (same entry.1)
    simpa only [get?_eq_some_iff, Prod.mk.eta, eq_iff_iff] using found
  have distinct (table : HostTable α) : table.entries.Nodup := List.Nodup.of_map _ table.hosts_nodup
  have perm := (List.perm_ext_iff_of_nodup (distinct one) (distinct two)).mpr known
  have equal : one.entries = two.entries :=
    perm.eq_of_pairwise (fun _ _ _ _ before after => absurd before (String.lt_asymm after))
      one.ascending two.ascending
  cases one
  cases two
  cases equal
  rfl

theorem eq_of_contains {one two : HostSet} (same : ∀ host, one.contains host = two.contains host) :
    one = two := by
  refine eq_of_get? fun host => ?_
  have both := same host
  unfold contains at both
  cases first : one.get? host <;> cases second : two.get? host <;> simp_all

theorem isEmpty_iff {table : HostTable α} : table.isEmpty = true ↔ ∀ host, table.get? host = none := by
  simp only [isEmpty, List.isEmpty_iff, Option.eq_none_iff_forall_ne_some, ne_eq, get?_eq_some_iff]
  constructor
  · intro none host value present
    rw [none] at present
    cases present
  · intro absent
    exact List.eq_nil_iff_forall_not_mem.mpr fun entry => absent entry.1 entry.2

theorem isEmpty_iff_size {table : HostTable α} : table.isEmpty = true ↔ table.size = 0 :=
  List.isEmpty_iff_length_eq_zero

theorem hosts_length {table : HostTable α} : table.hosts.length = table.size := List.length_map _

structure Lists (table : HostTable α) : Prop where
  known : ∀ host, host ∈ table.hosts ↔ ∃ value, table.get? host = some value
  ascending : table.hosts.Pairwise (· < ·)
  size : table.size = table.hosts.length
  isEmpty : table.isEmpty = true ↔ table.hosts = []

theorem lists (table : HostTable α) : table.Lists where
  known _ := mem_hosts_iff
  ascending := table.hosts_ascending
  size := hosts_length.symm
  isEmpty := by rw [isEmpty_iff_size, ← hosts_length, List.length_eq_zero_iff]

@[simp] theorem get?_empty : (empty : HostTable α).get? host = none := rfl

theorem lookup_place {entries : List (String × α)} :
    (place host value entries).lookup name = if name = host then some value else entries.lookup name := by
  induction entries with
  | nil => simp [place, lookup_cons_eq]
  | cons first rest ih =>
    unfold place
    split
    · simp [lookup_cons_eq]
    · split
      · rename_i held
        by_cases same : name = host
        · simp [same]
        · have other : name ≠ first.1 := held ▸ same
          simp [lookup_cons_eq, same, other]
      · rename_i different
        by_cases same : name = first.1
        · have other : name ≠ host := fun equal => different (equal.symm.trans same)
          simp [lookup_cons_eq, same, same ▸ other]
        · simp [lookup_cons_eq, same, ih]

@[simp] theorem get?_insert {table : HostTable α} :
    (table.insert host value).get? name = if name = host then some value else table.get? name :=
  lookup_place

@[simp] theorem get?_filter {table : HostTable α} :
    (table.filter keep).get? host = (table.get? host).filter (keep host) := by
  ext value
  simp [get?_eq_some_iff, filter, Option.filter_eq_some_iff]

@[simp] theorem get?_erase {table : HostTable α} :
    (table.erase host).get? name = if name = host then none else table.get? name := by
  unfold erase
  rw [get?_filter]
  by_cases same : name = host
  · simp [same]
  · cases table.get? name <;> simp [same]

@[simp] theorem get?_map {table : HostTable α} :
    (table.map change).get? host = (table.get? host).map (change host) := by
  ext value
  simp only [Option.map_eq_some_iff, get?_eq_some_iff, map, List.mem_map, Prod.mk.injEq]
  constructor
  · intro changed
    obtain ⟨⟨name, held⟩, present, rfl, rfl⟩ := changed
    exact ⟨held, present, rfl⟩
  · intro found
    obtain ⟨held, present, rfl⟩ := found
    exact ⟨(host, held), present, rfl, rfl⟩

@[simp] theorem get?_filterMap {table : HostTable α} {pick : String → α → Option β} :
    (table.filterMap pick).get? host = (table.get? host).bind (pick host) := by
  ext value
  simp only [Option.bind_eq_some_iff, get?_eq_some_iff, filterMap, List.mem_filterMap,
    Option.map_eq_some_iff, Prod.exists, Prod.mk.injEq]
  constructor
  · intro kept
    obtain ⟨name, held, present, _, picked, rfl, rfl⟩ := kept
    exact ⟨held, present, picked⟩
  · intro found
    obtain ⟨held, present, picked⟩ := found
    exact ⟨host, held, present, value, picked, rfl, rfl⟩

@[simp] theorem contains_insert {set : HostSet} :
    (HostSet.insert set host).contains name = true ↔ name = host ∨ set.contains name = true := by
  by_cases same : name = host <;> simp [contains_iff, HostSet.insert, same]

theorem contains_ofList {names : List String} :
    (HostSet.ofList names).contains name = true ↔ name ∈ names := by
  have added (set : HostSet) : (names.foldl HostSet.insert set).contains name = true ↔
      name ∈ names ∨ set.contains name = true := by
    induction names generalizing set with
    | nil => simp
    | cons first rest ih =>
      rw [List.foldl_cons, ih, contains_insert, List.mem_cons]
      tauto
  have nothing : (empty : HostSet).contains name = false := rfl
  rw [HostSet.ofList, added, nothing]
  simp

end TestbedWatchdog.HostTable
