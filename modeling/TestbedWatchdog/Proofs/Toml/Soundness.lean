import Mathlib.Data.List.Nodup
import TestbedWatchdog.Proofs.Lookup
import TestbedWatchdog.Proofs.Toml.Reader
import TestbedWatchdog.Toml.Document

namespace TestbedWatchdog.Toml

inductive Value.Sound : Value → Prop
  | text : Sound (.text content)
  | integer (low : -0x8000000000000000 ≤ n) (high : n < 0x8000000000000000) : Sound (.integer n)
  | real : Sound (.real n)
  | boolean : Sound (.boolean flag)
  | moment : Sound .moment
  | array (each : ∀ item ∈ items, Sound item) : Sound (.array items)
  | table (distinct : (fields.map (·.1)).Nodup) (each : ∀ field ∈ fields, Sound field.2) :
      Sound (.table fields)

namespace Value.Sound

variable {fields : Fields}

theorem distinct (sound : (Value.table fields).Sound) : (fields.map (·.1)).Nodup := by
  cases sound with
  | table distinct => exact distinct

theorem each (sound : (Value.table fields).Sound) : ∀ field ∈ fields, field.2.Sound := by
  cases sound with
  | table _ each => exact each

theorem lookup (sound : (Value.table fields).Sound) (name : String) :
    ∀ value ∈ fields.lookup name, value.Sound := by
  intro value found
  exact sound.each (name, value) ((HostTable.lookup_of_nodup sound.distinct).mp found)

end Value.Sound

inductive Node.Sound : Node → Prop
  | leaf {value : Value} (sound : value.Sound) : Sound (.leaf value)
  | table (distinct : (fields.map (·.1)).Nodup) (each : ∀ entry ∈ fields, Sound entry.2) :
      Sound (.table origin fields)
  | elements (distinct : ∀ item ∈ items, (item.map (·.1)).Nodup)
      (each : ∀ item ∈ items, ∀ entry ∈ item, Sound entry.2) : Sound (.elements items)

structure Nodes.Sound (nodes : Nodes) : Prop where
  distinct : (nodes.map (·.1)).Nodup
  each : ∀ entry ∈ nodes, entry.2.Sound

namespace Nodes

variable {nodes below changed : Nodes} {name : String} {node : Node} {value : Value}
  {pairs : List (Path × Value)}

theorem sound_nil : Sound [] := ⟨.nil, List.forall_mem_nil _⟩

theorem Sound.table (sound : Sound below) : Node.Sound (.table origin below) :=
  .table sound.distinct sound.each

theorem sound_of_elements {items : List Nodes} (sound : Node.Sound (.elements items))
    (present : below ∈ items) : Sound below := by
  cases sound with
  | elements distinct each => exact ⟨distinct below present, each below present⟩

theorem sound_elements {items : List Nodes} (sound : ∀ item ∈ items, Sound item) :
    Node.Sound (.elements items) :=
  .elements (fun item present => (sound item present).distinct) fun item present => (sound item present).each

theorem find?_erase : (nodes.erase name).find? name = none := by
  refine HostTable.lookup_none_iff.mpr fun named => ?_
  obtain ⟨entry, present, same⟩ := List.mem_map.mp named
  exact of_decide_eq_true (List.mem_filter.mp present).2 same

namespace Sound

theorem found (sound : Sound nodes) (found : nodes.find? name = some node) : node.Sound := by
  exact sound.each (name, node) ((HostTable.lookup_of_nodup sound.distinct).mp found)

theorem inner (sound : Sound nodes) (found : nodes.find? name = some (.table origin below)) :
    Sound below := by
  have table := sound.found found
  cases table with
  | table distinct each => exact ⟨distinct, each⟩

theorem append (sound : Sound nodes) (fresh : nodes.find? name = none) (fit : node.Sound) :
    Sound (nodes.append name node) := by
  constructor
  · rw [Nodes.append, List.map_append, List.nodup_append]
    refine ⟨sound.distinct, List.nodup_singleton _, ?_⟩
    intro old present new added same
    rw [same, List.mem_singleton.mp added] at present
    exact HostTable.lookup_none_iff.mp fresh present
  · intro entry present
    rcases List.mem_append.mp present with old | new
    · exact sound.each entry old
    · cases List.mem_singleton.mp new
      exact fit

theorem replace (sound : Sound nodes) (fit : node.Sound) : Sound (nodes.replace name node) := by
  constructor
  · have same : (nodes.replace name node).map (·.1) = nodes.map (·.1) := by
      rw [Nodes.replace, List.map_map]
      apply List.map_congr_left
      intro entry _
      by_cases equal : entry.1 = name <;> simp [equal]
    rw [same]
    exact sound.distinct
  · intro entry present
    obtain ⟨old, member, rfl⟩ := List.mem_map.mp present
    split
    · exact fit
    · exact sound.each old member

theorem erase (sound : Sound nodes) (name : String) : Sound (nodes.erase name) := by
  constructor
  · exact sound.distinct.sublist (List.filter_sublist.map _)
  · intro entry present
    exact sound.each entry (List.mem_of_mem_filter present)

theorem last {items : List Nodes} (sound : Sound nodes) (found : nodes.find? name = some (.elements items))
    (last : items.getLast? = some below) : Sound below :=
  sound_of_elements (sound.found found) (List.mem_of_getLast? last)

theorem replaceLast {items : List Nodes} (sound : Sound nodes)
    (found : nodes.find? name = some (.elements items)) (fit : Sound changed) :
    Sound (nodes.replace name (.elements (items.dropLast ++ [changed]))) := by
  apply sound.replace
  apply sound_elements
  intro item present
  rcases List.mem_append.mp present with old | new
  · exact sound_of_elements (sound.found found) (List.dropLast_subset _ old)
  · exact List.mem_singleton.mp new ▸ fit

theorem put {path : Path} (sound : Sound nodes) (fit : value.Sound)
    (done : nodes.put path value = some changed) : Sound changed := by
  induction path generalizing nodes changed with
  | nil => cases done
  | cons name path ih =>
    cases path with
    | nil =>
      unfold Nodes.put at done
      split at done
      · cases done
      · rename_i fresh
        cases done
        exact sound.append (Option.not_isSome_iff_eq_none.mp fresh) (.leaf fit)
    | cons next rest =>
      unfold Nodes.put at done
      split at done
      · rename_i fresh
        obtain ⟨inner, deeper, rfl⟩ := Option.map_eq_some_iff.mp done
        exact sound.append fresh (ih sound_nil deeper).table
      · rename_i origin inner found
        split at done
        · cases done
        · obtain ⟨changed, deeper, rfl⟩ := Option.map_eq_some_iff.mp done
          exact sound.replace (ih (sound.inner found) deeper).table
      · rename_i items found
        split at done
        · cases done
        · rename_i inner last
          split at done
          · cases done
          · obtain ⟨changed, deeper, rfl⟩ := Option.map_eq_some_iff.mp done
            exact sound.replaceLast found (ih (sound.last found last) deeper)
      · cases done

theorem putAll (sound : Sound nodes) (fit : ∀ pair ∈ pairs, pair.2.Sound)
    (done : nodes.putAll pairs = some changed) : Sound changed := by
  induction pairs generalizing nodes with
  | nil =>
    cases done
    exact sound
  | cons pair rest ih =>
    obtain ⟨fit, others⟩ := List.forall_mem_cons.mp fit
    obtain ⟨between, first, later⟩ := Option.bind_eq_some_iff.mp done
    exact ih (sound.put fit first) others later

-- A change that keeps to it where the path leads keeps to it on the way.
theorem within {path : Path} {change : Nodes → Option Nodes} (sound : Sound nodes)
    (keeps : ∀ inner changed, Sound inner → change inner = some changed → Sound changed)
    (done : nodes.within path change = some changed) : Sound changed := by
  induction path generalizing nodes changed with
  | nil => exact keeps _ _ sound done
  | cons name rest ih =>
    unfold Nodes.within at done
    split at done
    · rename_i fresh
      obtain ⟨inner, deeper, rfl⟩ := Option.map_eq_some_iff.mp done
      exact sound.append fresh (ih sound_nil deeper).table
    · rename_i origin inner found
      obtain ⟨changed, deeper, rfl⟩ := Option.map_eq_some_iff.mp done
      exact sound.replace (ih (sound.inner found) deeper).table
    · rename_i items found
      split at done
      · cases done
      · rename_i inner last
        obtain ⟨changed, deeper, rfl⟩ := Option.map_eq_some_iff.mp done
        exact sound.replaceLast found (ih (sound.last found last) deeper)
    · cases done

theorem openTable (sound : Sound nodes) (fit : ∀ pair ∈ pairs, pair.2.Sound)
    (done : nodes.openTable name pairs = some changed) : Sound changed := by
  unfold Nodes.openTable at done
  split at done
  · rename_i fresh
    obtain ⟨fields, put, rfl⟩ := Option.map_eq_some_iff.mp done
    exact sound.append fresh (sound_nil.putAll fit put).table
  · rename_i inner found
    obtain ⟨fields, put, rfl⟩ := Option.map_eq_some_iff.mp done
    exact (sound.erase name).append find?_erase ((sound.inner found).putAll fit put).table
  · cases done

theorem addElement (sound : Sound nodes) (fit : ∀ pair ∈ pairs, pair.2.Sound)
    (done : nodes.addElement name pairs = some changed) : Sound changed := by
  unfold Nodes.addElement at done
  split at done
  · rename_i fresh
    obtain ⟨fields, put, rfl⟩ := Option.map_eq_some_iff.mp done
    have added := sound_nil.putAll fit put
    exact sound.append fresh (sound_elements fun item one => List.mem_singleton.mp one ▸ added)
  · rename_i items found
    obtain ⟨fields, put, rfl⟩ := Option.map_eq_some_iff.mp done
    have added := sound_nil.putAll fit put
    apply sound.replace
    apply sound_elements
    intro item present
    rcases List.mem_append.mp present with old | new
    · exact sound_of_elements (sound.found found) old
    · exact List.mem_singleton.mp new ▸ added
  · cases done

end Sound

theorem fields_eq (nodes : Nodes) : nodes.fields = nodes.map fun entry => (entry.1, valueOf entry.2) := by
  induction nodes with
  | nil => rfl
  | cons entry rest ih =>
    rw [fields, ih]
    rfl

theorem tables_eq (items : List Nodes) : tables items = items.map fun item => .table item.fields := by
  induction items with
  | nil => rfl
  | cons item rest ih =>
    rw [tables, ih]
    rfl

theorem table_fields (distinct : (nodes.map (·.1)).Nodup)
    (each : ∀ entry ∈ nodes, (valueOf entry.2).Sound) : (Value.table nodes.fields).Sound := by
  rw [fields_eq]
  apply Value.Sound.table
  · rw [List.map_map]
    exact distinct
  · intro field present
    obtain ⟨entry, member, rfl⟩ := List.mem_map.mp present
    exact each entry member

theorem valueOf_sound (sound : node.Sound) : (valueOf node).Sound := by
  induction sound with
  | leaf sound => exact sound
  | table distinct each ih => exact table_fields distinct ih
  | elements distinct each ih =>
    rw [valueOf, tables_eq]
    apply Value.Sound.array
    intro item present
    obtain ⟨inner, member, rfl⟩ := List.mem_map.mp present
    exact table_fields (distinct inner member) (ih inner member)

theorem Sound.fields (sound : Sound nodes) : (Value.table nodes.fields).Sound :=
  table_fields sound.distinct fun entry present => valueOf_sound (sound.each entry present)

end Nodes

section Reading

open Reader

variable {item : Reader Value}

theorem yields_inWord (n : Int) : Yields (liftM (inWord n)) fun m => (Value.integer m).Sound := by
  apply yields_lift
  intro m within
  unfold inWord at within
  split at within
  · rename_i bounds
    cases within
    exact .integer bounds.1 bounds.2
  · cases within

theorem based_yields (mark : Char) (base : Nat) :
    Yields (based mark base) fun n => (Value.integer n).Sound := by
  apply yields_skip
  exact (yields_any _).bind fun _ _ => yields_inWord _

theorem integer_yields : Yields integer fun n => (Value.integer n).Sound := by
  have decimal : Yields decimal fun n => (Value.integer n).Sound :=
    (yields_any _).bind fun _ _ => (yields_any _).bind fun _ _ => yields_inWord _
  exact (based_yields _ _).orElse ((based_yields _ _).orElse ((based_yields _ _).orElse decimal))

theorem scalar_yields : Yields scalar Value.Sound := by
  unfold scalar
  refine .orElse ?_ (.orElse ?_ (.orElse ?_ (.orElse ?_ (.orElse ?_ ?_))))
  · exact (yields_any _).bind fun _ _ => yields_pure .text
  · exact yields_skip _ (yields_pure .moment)
  · exact (yields_any _).bind fun _ _ => yields_pure .real
  · exact integer_yields.bind fun _ sound => yields_pure sound
  · exact yields_skip _ (yields_pure .boolean)
  · exact yields_skip _ (yields_pure .boolean)

theorem array_yields (each : Yields item Value.Sound) : Yields (array item) Value.Sound := by
  apply yields_skip
  have filled : Yields (do filler; let value ← item; filler; pure value) Value.Sound :=
    yields_skip _ (each.bind fun _ sound => yields_skip _ (yields_pure sound))
  refine ((filled.separated _).bind fun found sound => yields_skip _ (yields_pure sound)).optional.bind ?_
  intro items sound
  apply yields_skip
  apply yields_skip
  apply yields_pure
  apply Value.Sound.array
  exact forall_getD sound

theorem keyValue_yields (each : Yields item Value.Sound) :
    Yields (keyValue item) fun pair => pair.2.Sound := by
  refine (yields_any _).bind fun path _ => yields_skip _ (yields_skip _ ?_)
  exact each.bind fun _ sound => yields_pure sound

theorem inlineTable_yields (each : Yields item Value.Sound) : Yields (inlineTable item) Value.Sound := by
  apply yields_skip
  have spaced : Yields (do let pair ← keyValue item; gap; pure pair) fun pair => pair.2.Sound :=
    (keyValue_yields each).bind fun _ sound => yields_skip _ (yields_pure sound)
  refine (spaced.separated _).optional.bind fun pairs sound => yields_skip _ (yields_skip _ ?_)
  cases made : Nodes.ofPairs? (pairs.getD []) with
  | none => exact yields_failure
  | some nodes =>
    apply yields_pure
    apply Nodes.Sound.fields
    exact Nodes.sound_nil.putAll (forall_getD sound) made

theorem value_yields (depth : Nat) : Yields (value depth) Value.Sound := by
  induction depth with
  | zero => exact scalar_yields
  | succ depth ih => exact (array_yields ih).orElse ((inlineTable_yields ih).orElse scalar_yields)

def Statement.Sound : Statement → Prop
  | .header _ => True
  | .pair _ value => value.Sound

theorem statement_yields : Yields statement Statement.Sound := by
  have element : Yields elementHeader Statement.Sound :=
    yields_skip _ ((yields_any _).bind fun _ _ => yields_skip _ (yields_pure trivial))
  have table : Yields tableHeader Statement.Sound :=
    yields_skip _ ((yields_any _).bind fun _ _ => yields_skip _ (yields_pure trivial))
  have pair : Yields pair Statement.Sound :=
    (keyValue_yields (value_yields _)).bind fun _ sound => yields_pure sound
  exact (element.orElse (table.orElse pair)).bind fun _ sound => yields_skip _ (yields_pure sound)

theorem line_yields : Yields line fun found => ∀ statement ∈ found, statement.Sound := by
  refine .bind (.orElse ?_ ?_) fun _ sound => yields_skip _ (yields_pure sound)
  · exact yields_skip _ (yields_pure fun _ absent => nomatch absent)
  · refine statement_yields.bind fun statement sound => yields_pure ?_
    intro found same
    cases same
    exact sound

theorem statements?_sound (read : statements? text = some found) : ∀ statement ∈ found, statement.Sound := by
  unfold statements? at read
  generalize (if text.head? = some '\uFEFF' then text.drop 1 else text) = body at read
  simp only at read
  split at read
  · rename_i lines taken
    cases read
    have sound := (yields_skip gap line_yields.many) _ _ _ taken
    intro statement present
    obtain ⟨line, member, same⟩ := List.mem_filterMap.mp present
    exact sound line member statement same
  · cases read

end Reading

def Block.Sound (block : Block) : Prop := ∀ pair ∈ block.pairs, pair.2.Sound

theorem Block.sound_empty (header : Header) : Block.Sound ⟨header, []⟩ := List.forall_mem_nil _

theorem group_sound {grouped : List Block} {found : Statement} (sound : ∀ block ∈ grouped, block.Sound)
    (fit : found.Sound) : ∀ block ∈ group grouped found, block.Sound := by
  unfold group
  split
  · rename_i block rest path value
    obtain ⟨first, others⟩ := List.forall_mem_cons.mp sound
    exact List.forall_mem_cons.mpr ⟨List.forall_mem_cons.mpr ⟨fit, first⟩, others⟩
  · rename_i path value
    intro block one
    cases List.mem_singleton.mp one
    exact List.forall_mem_singleton.mpr fit
  · exact List.forall_mem_cons.mpr ⟨Block.sound_empty _, sound⟩

theorem blocks_sound {found : List Statement} (sound : ∀ statement ∈ found, statement.Sound) :
    ∀ block ∈ blocks found, block.Sound := by
  have grouped : ∀ (start : List Block), (∀ block ∈ start, block.Sound) →
      ∀ block ∈ found.foldl group start, block.Sound := by
    induction found with
    | nil => exact fun _ same => same
    | cons statement rest ih =>
      obtain ⟨fit, others⟩ := List.forall_mem_cons.mp sound
      exact fun start same => ih others _ (group_sound same fit)
  intro block present
  obtain ⟨latest, member, rfl⟩ := List.mem_map.mp present
  have front := List.forall_mem_singleton.mpr (Block.sound_empty .document)
  have pairs := grouped _ front latest (List.mem_reverse.mp member)
  exact fun pair inside => pairs pair (List.mem_reverse.mp inside)

theorem addTo_sound {nodes changed : Nodes} {block : Block} (sound : nodes.Sound) (fit : block.Sound)
    (done : block.addTo nodes = some changed) : changed.Sound := by
  unfold Block.addTo at done
  split at done
  · exact sound.putAll fit done
  · obtain ⟨name, _, done⟩ := Option.bind_eq_some_iff.mp done
    exact sound.within (fun _ _ below opened => below.openTable fit opened) done
  · obtain ⟨name, _, done⟩ := Option.bind_eq_some_iff.mp done
    exact sound.within (fun _ _ below added => below.addElement fit added) done

theorem addAll_sound {nodes changed : Nodes} {added : List Block} (sound : nodes.Sound)
    (fit : ∀ block ∈ added, block.Sound) (done : added.foldlM Block.addTo nodes = some changed) :
    changed.Sound := by
  induction added generalizing nodes with
  | nil =>
    cases done
    exact sound
  | cons block rest ih =>
    obtain ⟨first, others⟩ := List.forall_mem_cons.mp fit
    obtain ⟨between, once, later⟩ := Option.bind_eq_some_iff.mp done
    exact ih (addTo_sound sound first once) others later

theorem document?_sound (read : document? text = some document) : (Value.table document).Sound := by
  obtain ⟨found, stated, read⟩ := Option.bind_eq_some_iff.mp read
  obtain ⟨nodes, assembled, read⟩ := Option.bind_eq_some_iff.mp read
  cases read
  exact (addAll_sound Nodes.sound_nil (blocks_sound (statements?_sound stated)) assembled).fields

end TestbedWatchdog.Toml
