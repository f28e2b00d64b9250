import TestbedWatchdog.Log
import TestbedWatchdog.Proofs.Lookup
import TestbedWatchdog.Toml.Text

namespace TestbedWatchdog.Told
open Toml (hexValue?)

inductive Place where
  | start
  | opened
  | name (content : List Char)
  | escape (content : List Char)
  | marked (content : List Char)
  | code (content : List Char) (n : Nat)
  | named (host : List Char)
  | due (host : List Char)
  | digits (host : List Char)
  | count (host : List Char) (n : Nat)
  | comma
  | next
  | closed

structure State where
  told : List (String × Nat)
  place : Place

def escaped? : Char → Option Char
  | 't' => some '\t'
  | 'r' => some '\r'
  | 'n' => some '\n'
  | '0' => some '\x00'
  | '"' => some '"'
  | '\\' => some '\\'
  | _ => none

def decimal? (c : Char) : Option Nat := if c.isDigit then some (c.toNat - '0'.toNat) else none

-- What a character does where it stands; no character does anything behind the last brace.
def Place.step : Place → Char → List (String × Nat) → Option State
  | start, c, told => if c = '\x7b' then some ⟨told, opened⟩ else none
  | opened, c, told =>
    if c = '"' then some ⟨told, name []⟩ else if c = '\x7d' then some ⟨told, closed⟩ else none
  | name content, c, told =>
    if c = '"' then some ⟨told, named content⟩
    else if c = '\\' then some ⟨told, escape content⟩
    else some ⟨told, name (content ++ [c])⟩
  | escape content, c, told =>
    if c = 'u' then some ⟨told, marked content⟩
    else (escaped? c).map fun meant => ⟨told, name (content ++ [meant])⟩
  | marked content, c, told => if c = '\x7b' then some ⟨told, code content 0⟩ else none
  | code content n, c, told =>
    if c = '\x7d' then some ⟨told, name (content ++ [Char.ofNat n])⟩
    else (hexValue? c).map fun digit => ⟨told, code content (n * 16 + digit)⟩
  | named host, c, told => if c = ':' then some ⟨told, due host⟩ else none
  | due host, c, told => if c = ' ' then some ⟨told, digits host⟩ else none
  | digits host, c, told => (decimal? c).map fun digit => ⟨told, count host digit⟩
  | count host n, c, told =>
    if c = ',' then some ⟨told ++ [(String.ofList host, n)], comma⟩
    else if c = '\x7d' then some ⟨told ++ [(String.ofList host, n)], closed⟩
    else (decimal? c).map fun digit => ⟨told, count host (n * 10 + digit)⟩
  | comma, c, told => if c = ' ' then some ⟨told, next⟩ else none
  | next, c, told => if c = '"' then some ⟨told, name []⟩ else none
  | closed, _, _ => none

def run (state : State) (text : List Char) : Option State :=
  text.foldlM (fun state c => state.place.step c state.told) state

-- The names and counts that a whole text tells of, in its order.
def read? (text : String) : Option (List (String × Nat)) :=
  match run ⟨[], .start⟩ text.toList with
  | some ⟨told, .closed⟩ => some told
  | _ => none

variable {told : List (String × Nat)} {content host : List Char} {c : Char}

theorem run_append (state : State) (front back : List Char) :
    run state (front ++ back) = (run state front).bind (run · back) :=
  List.foldlM_append

theorem run_toDigits {base : Nat} {first : Place} {reached : Nat → Place} (large : 1 < base)
    (begins : ∀ d < base, first.step d.digitChar told = some ⟨told, reached d⟩)
    (goesOn : ∀ n, ∀ d < base, (reached n).step d.digitChar told = some ⟨told, reached (n * base + d)⟩)
    (n : Nat) : run ⟨told, first⟩ (Nat.toDigits base n) = some ⟨told, reached n⟩ := by
  induction n using Nat.strongRecOn with
  | ind n ih =>
    by_cases small : n < base
    · rw [Nat.toDigits_of_lt_base small]
      simp [run, begins n small]
    · have below : n / base < n := Nat.div_lt_self (by omega) large
      have last : n % base < base := Nat.mod_lt n (by omega)
      rw [Nat.toDigits_of_base_le large (Nat.not_lt.mp small), run_append, ih _ below]
      simp [run, goesOn _ _ last, Nat.div_add_mod']

theorem hexValue?_digitChar : ∀ d < 16, hexValue? d.digitChar = some d ∧ d.digitChar ≠ '\x7d' := by
  decide

theorem decimal?_digitChar : ∀ d < 10,
    decimal? d.digitChar = some d ∧ d.digitChar ≠ ',' ∧ d.digitChar ≠ '\x7d' := by
  decide

theorem run_hexNumber (n : Nat) :
    run ⟨told, .code content 0⟩ (Text.hexNumber n) = some ⟨told, .code content n⟩ := by
  refine run_toDigits (by decide) ?_ ?_ n
  · intro d small
    simp [Place.step, hexValue?_digitChar d small]
  · intro n d small
    simp [Place.step, hexValue?_digitChar d small]

theorem run_count (n : Nat) : run ⟨told, .digits host⟩ (Nat.toDigits 10 n) = some ⟨told, .count host n⟩ := by
  refine run_toDigits (by decide) ?_ ?_ n
  · intro d small
    simp [Place.step, decimal?_digitChar d small]
  · intro n d small
    simp [Place.step, decimal?_digitChar d small]

theorem run_quotedChar (c : Char) :
    run ⟨told, .name content⟩ (Text.quotedChar c) = some ⟨told, .name (content ++ [c])⟩ := by
  unfold Text.quotedChar
  split
  · rfl
  · rfl
  · rfl
  · rfl
  · rfl
  · rfl
  · rename_i quote backslash _ _ _ _
    split
    · have plain : c ≠ '"' ∧ c ≠ '\\' := ⟨quote, backslash⟩
      simp [run, Place.step, plain]
    · have opens : run ⟨told, .name content⟩ ['\\', 'u', '\x7b'] = some ⟨told, .code content 0⟩ := rfl
      rw [run_append, run_append, opens, Option.bind_some, run_hexNumber]
      simp [run, Place.step]

theorem run_quotedChars (text : List Char) :
    run ⟨told, .name content⟩ (text.flatMap Text.quotedChar) = some ⟨told, .name (content ++ text)⟩ := by
  induction text generalizing content with
  | nil => simp [run]
  | cons c rest ih =>
    rw [List.flatMap_cons, run_append, run_quotedChar, Option.bind_some, ih]
    simp

theorem run_entry {place : Place} (begins : place.step '"' told = some ⟨told, .name []⟩) (name : String)
    (count : UInt32) :
    run ⟨told, place⟩ (Text.quoted name ++ ": " ++ toString count.toNat).toList =
      some ⟨told, .count name.toList count.toNat⟩ := by
  have colon : ": ".toList = [':', ' '] := by decide
  have digits : (toString count.toNat).toList = Nat.toDigits 10 count.toNat := Nat.toList_repr
  have quote : run ⟨told, place⟩ ['"'] = some ⟨told, .name []⟩ := by simp [run, begins]
  have behind : run ⟨told, .name name.toList⟩ ['"', ':', ' '] = some ⟨told, .digits name.toList⟩ := rfl
  have whole : (Text.quoted name ++ ": " ++ toString count.toNat).toList =
      ['"'] ++ (name.toList.flatMap Text.quotedChar ++ (['"', ':', ' '] ++ Nat.toDigits 10 count.toNat)) := by
    simp only [Text.quoted, String.toList_append, String.toList_ofList, colon, digits, List.append_assoc,
      List.cons_append, List.nil_append]
  rw [whole, run_append, quote, Option.bind_some, run_append, run_quotedChars, Option.bind_some,
    List.nil_append, run_append, behind, Option.bind_some, run_count]

theorem run_entries {place : Place} (begins : ∀ told, place.step '"' told = some ⟨told, .name []⟩)
    (first : String × UInt32) (rest : List (String × UInt32)) :
    run ⟨told, place⟩ ([',', ' '].intercalate ((first :: rest).map fun entry =>
        (Text.quoted entry.1 ++ ": " ++ toString entry.2.toNat).toList) ++ ['\x7d']) =
      some ⟨told ++ (first :: rest).map fun entry => (entry.1, entry.2.toNat), .closed⟩ := by
  induction rest generalizing told place first with
  | nil =>
    rw [List.map_singleton, List.intercalate_singleton, run_append, run_entry (begins told)]
    simp [run, Place.step]
  | cons second others ih =>
    have comma : run ⟨told, .count first.1.toList first.2.toNat⟩ [',', ' '] =
        some ⟨told ++ [(first.1, first.2.toNat)], .next⟩ := by
      simp [run, Place.step]
    have next : ∀ told, Place.next.step '"' told = some ⟨told, .name []⟩ := fun _ => rfl
    have later := @ih (told ++ [(first.1, first.2.toNat)]) _ next second
    rw [List.map_cons] at later
    rw [List.map_cons, List.map_cons, List.intercalate_cons_cons, List.append_assoc, List.append_assoc,
      run_append, run_entry (begins told), Option.bind_some, run_append, comma, Option.bind_some, later]
    simp

theorem read?_tableText (table : HostTable UInt32) :
    read? (LogEvent.tableText table) = some (table.entries.map fun entry => (entry.1, entry.2.toNat)) := by
  have braces : "\x7b".toList = ['\x7b'] ∧ "\x7d".toList = ['\x7d'] ∧ ", ".toList = [',', ' '] := by decide
  have opens : run ⟨[], .start⟩ ['\x7b'] = some ⟨[], .opened⟩ := rfl
  have read : run ⟨[], .start⟩ (LogEvent.tableText table).toList =
      some ⟨table.entries.map fun entry => (entry.1, entry.2.toNat), .closed⟩ := by
    unfold LogEvent.tableText LogEvent.braced
    rw [String.toList_append, String.toList_append, String.toList_intercalate, braces.1, braces.2.1,
      braces.2.2, List.append_assoc, run_append, opens, Option.bind_some]
    cases table.entries with
    | nil => rfl
    | cons first rest =>
      rw [List.map_map]
      exact run_entries (fun _ => rfl) first rest
  rw [read?, read]

example : read? "\x7b\"n1\": 12, \"n\\u\x7b200b\x7d2\": 3\x7d" = some [("n1", 12), ("n\u200b2", 3)] := by
  decide +kernel

end TestbedWatchdog.Told
