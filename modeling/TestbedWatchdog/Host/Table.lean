namespace TestbedWatchdog

abbrev Ascending (entries : List (String × α)) : Prop :=
  entries.Pairwise fun earlier later => earlier.1 < later.1

-- Entries stand in the order of names by code point, which is the byte order of UTF-8; so tables that answer
-- every look-up alike are equal.
structure HostTable (α : Type) where
  entries : List (String × α)
  ascending : Ascending entries
deriving DecidableEq

namespace HostTable

def empty : HostTable α := ⟨[], .nil⟩

def get? (table : HostTable α) (host : String) : Option α := table.entries.lookup host

def contains (table : HostTable α) (host : String) : Bool := (table.get? host).isSome

def hosts (table : HostTable α) : List String := table.entries.map (·.1)

def size (table : HostTable α) : Nat := table.entries.length

def isEmpty (table : HostTable α) : Bool := table.entries.isEmpty

def place (host : String) (value : α) : List (String × α) → List (String × α)
  | [] => [(host, value)]
  | entry :: rest =>
    if host < entry.1 then (host, value) :: entry :: rest
    else if host = entry.1 then (host, value) :: rest
    else entry :: place host value rest

theorem place_hosts {entries : List (String × α)} (placed : entry ∈ place host value entries) :
    entry.1 = host ∨ entry ∈ entries := by
  induction entries with
  | nil => simp_all [place]
  | cons first rest ih =>
    unfold place at placed
    split at placed
    · rcases List.mem_cons.mp placed with rfl | old
      · exact .inl rfl
      · exact .inr old
    · split at placed
      · rcases List.mem_cons.mp placed with rfl | old
        · exact .inl rfl
        · exact .inr (List.mem_cons_of_mem _ old)
      · rcases List.mem_cons.mp placed with rfl | new
        · exact .inr List.mem_cons_self
        · exact (ih new).imp_right (List.mem_cons_of_mem _)

theorem after_of_not {a b : String} (unordered : ¬ a < b) (different : a ≠ b) : b < a :=
  String.not_le.mp fun le => different (String.le_antisymm le (String.not_lt.mp unordered))

theorem place_ascending {entries : List (String × α)} (sorted : Ascending entries) :
    Ascending (place host value entries) := by
  induction entries with
  | nil => exact List.pairwise_singleton _ _
  | cons first rest ih =>
    obtain ⟨above, tail⟩ := List.pairwise_cons.mp sorted
    unfold place
    split
    · rename_i before
      refine .cons (fun entry member => ?_) sorted
      rcases List.mem_cons.mp member with rfl | later
      · exact before
      · exact String.lt_trans before (above entry later)
    · rename_i notBefore
      split
      · rename_i same
        exact .cons (fun entry member => same ▸ above entry member) tail
      · rename_i different
        refine .cons (fun entry member => ?_) (ih tail)
        rcases place_hosts member with equal | old
        · exact equal ▸ after_of_not notBefore different
        · exact above entry old

def insert (table : HostTable α) (host : String) (value : α) : HostTable α :=
  ⟨place host value table.entries, place_ascending table.ascending⟩

def filter (keep : String → α → Bool) (table : HostTable α) : HostTable α :=
  ⟨table.entries.filter fun entry => keep entry.1 entry.2, table.ascending.filter _⟩

def erase (table : HostTable α) (host : String) : HostTable α := table.filter fun name _ => name ≠ host

def map (change : String → α → β) (table : HostTable α) : HostTable β :=
  ⟨table.entries.map fun entry => (entry.1, change entry.1 entry.2),
    table.ascending.map _ fun _ _ before => before⟩

theorem filterMap_host {pick : String → α → Option β} {entry : String × α} {found : String × β}
    (picked : (pick entry.1 entry.2).map (entry.1, ·) = some found) : found.1 = entry.1 := by
  obtain ⟨_, _, rfl⟩ := Option.map_eq_some_iff.mp picked
  rfl

def filterMap (pick : String → α → Option β) (table : HostTable α) : HostTable β :=
  ⟨table.entries.filterMap fun entry => (pick entry.1 entry.2).map (entry.1, ·),
    table.ascending.filterMap _ fun _ _ before _ first _ second => by
      rw [filterMap_host first, filterMap_host second]; exact before⟩

end HostTable

abbrev HostSet := HostTable Unit

namespace HostSet

def insert (set : HostSet) (host : String) : HostSet := HostTable.insert set host ()

def ofList (hosts : List String) : HostSet := hosts.foldl insert HostTable.empty

end HostSet

def HostTable.names (table : HostTable α) : HostSet := table.map fun _ _ => ()

end TestbedWatchdog
