import Mathlib.Data.List.Forall2
import Mathlib.Data.List.Infix
import TestbedWatchdog.Text.Json
import TestbedWatchdog.Toml.Text

namespace TestbedWatchdog.Json

open Toml (Reader Read)

def isSpace (c : Char) : Bool := c == ' ' || c == '\n' || c == '\r' || c == '\t'

def ahead (reader : Reader α) : Reader α := do
  let _ ← Reader.takeAll isSpace
  reader

def sign (c : Char) : Reader Unit := ahead (Reader.expect [c])

-- Up to and with the closing quote. Two halves of a pair are no character.
def contents : List Char → Read (List Char)
  | '"' :: rest => some ([], rest)
  | '\\' :: 'u' :: a :: b :: c :: d :: rest =>
    (Toml.numbered? [a, b, c, d]).bind fun found => Toml.before found (contents rest)
  | '\\' :: '/' :: rest => Toml.before '/' (contents rest)
  | '\\' :: c :: rest => (Toml.escaped? c).bind fun found => Toml.before found (contents rest)
  | c :: rest => if c.toNat < 32 then none else Toml.before c (contents rest)
  | [] => none

def quoted : Reader String := do
  sign '"'
  let content ← contents
  pure (String.ofList content)

def listed (first last : Char) (item : Reader α) : Reader (List α) := do
  sign first
  let items ← Reader.separated item (sign ',') <|> pure []
  sign last
  pure items

def field (value : Reader Json) : Reader (String × Json) := do
  let name ← quoted
  sign ':'
  let found ← value
  pure (name, found)

def value : Nat → Reader Json
  | 0 => failure
  | depth + 1 =>
    Json.text <$> quoted <|> Json.array <$> listed '[' ']' (value depth) <|>
      Json.object <$> listed '\x7b' '\x7d' (field (value depth))

-- No text has more brackets than characters.
def read? (text : String) : Option Json :=
  match value text.length text.toList with
  | some (found, rest) => if rest.all isSpace then some found else none
  | none => none

def Takes (reader : Reader α) (text : List Char) (found : α) : Prop :=
  ∀ gap rest, (∀ c ∈ gap, isSpace c = true) → reader (gap ++ (text ++ rest)) = some (found, rest)

def Refuses (reader : Reader α) (c : Char) : Prop :=
  ∀ gap rest, (∀ c ∈ gap, isSpace c = true) → reader (gap ++ c :: rest) = none

structure Brackets (first last : Char) : Prop where
  opens : isSpace first = false
  closes : isSpace last = false
  noComma : ',' ≠ last

theorem squares : Brackets '[' ']' := ⟨by decide, by decide, by decide⟩

theorem braces : Brackets '\x7b' '\x7d' := ⟨by decide, by decide, by decide⟩

section Combinators

variable {reader other item : Reader α} {c d : Char} {gap front back text rest : List Char}

theorem ahead_eq (spaces : ∀ c ∈ gap, isSpace c = true) (stops : isSpace c = false) :
    ahead reader (gap ++ c :: rest) = reader (c :: rest) := by
  have cut : (gap ++ c :: rest).span isSpace = (gap, c :: rest) := by
    rw [List.span_eq_takeWhile_dropWhile, List.takeWhile_append_of_pos spaces,
      List.dropWhile_append_of_pos spaces]
    simp [stops]
  change ((some ((gap ++ c :: rest).span isSpace)).bind fun found => reader found.2) = _
  rw [cut]
  rfl

theorem takes_sign (stops : isSpace c = false) : Takes (sign c) [c] () := by
  intro gap rest spaces
  rw [sign, List.singleton_append, ahead_eq spaces stops]
  simp [Reader.expect]

theorem refuses_sign (stops : isSpace d = false) (different : c ≠ d) : Refuses (sign c) d := by
  intro gap rest spaces
  rw [sign, ahead_eq spaces stops]
  simp [Reader.expect, different]

theorem Takes.bind {next : α → Reader β} (first : Takes reader front found)
    (spaces : ∀ c ∈ gap, isSpace c = true) (second : Takes (next found) back result) :
    Takes (reader >>= next) (front ++ (gap ++ back)) result := by
  intro margin rest blank
  change ((reader _).bind fun read => next read.1 read.2) = _
  rw [List.append_assoc, first margin _ blank, List.append_assoc]
  exact second gap rest spaces

theorem Takes.map (taken : Takes reader text found) (change : α → β) :
    Takes (change <$> reader) text (change found) := by
  intro gap rest spaces
  change ((reader _).bind fun read => some (change read.1, read.2)) = _
  rw [taken gap rest spaces]
  rfl

theorem Refuses.bind {next : α → Reader β} (refused : Refuses reader c) : Refuses (reader >>= next) c := by
  intro gap rest spaces
  change ((reader _).bind fun read => next read.1 read.2) = _
  rw [refused gap rest spaces]
  rfl

theorem Refuses.map (refused : Refuses reader c) (change : α → β) : Refuses (change <$> reader) c := by
  intro gap rest spaces
  change ((reader _).bind fun read => some (change read.1, read.2)) = _
  rw [refused gap rest spaces]
  rfl

theorem Takes.orElse_left (taken : Takes reader text found) : Takes (reader <|> other) text found := by
  intro gap rest spaces
  change (reader _ <|> other _) = _
  rw [taken gap rest spaces]
  rfl

theorem Takes.orElse_right (begins : text.head? = some c) (refused : Refuses reader c)
    (taken : Takes other text found) : Takes (reader <|> other) text found := by
  obtain ⟨later, rfl⟩ := List.head?_eq_some_iff.mp begins
  intro gap rest spaces
  change (reader _ <|> other _) = _
  rw [taken gap rest spaces, List.cons_append, refused gap _ spaces]
  rfl

theorem Refuses.orElse (one : Refuses reader c) (two : Refuses other c) : Refuses (reader <|> other) c := by
  intro gap rest spaces
  change (reader _ <|> other _) = _
  rw [one gap rest spaces, two gap rest spaces]
  rfl

theorem repeated_succ (taken : item text = some (found, rest)) (bound : Nat) :
    Reader.repeated item (bound + 1) text =
      (Reader.repeated item bound rest).map fun later => (found :: later.1, later.2) := by
  change ((Reader.optional item text).bind _) = _
  unfold Reader.optional
  rw [taken]
  change ((Reader.repeated item bound rest).bind fun later => some (found :: later.1, later.2)) = _
  exact Option.map_eq_bind.symm

theorem repeated_refused (refused : item text = none) (bound : Nat) :
    Reader.repeated item bound text = some ([], text) := by
  cases bound with
  | zero => rfl
  | succ bound =>
    change ((Reader.optional item text).bind _) = _
    unfold Reader.optional
    rw [refused]
    rfl

theorem many_eq {texts : List (List Char)} {items : List α}
    (each : List.Forall₂ (fun text found => text ≠ [] ∧ Takes item text found) texts items)
    (ends : item rest = none) : Reader.many item (texts.flatten ++ rest) = some (items, rest) := by
  have repeated (bound : Nat) (enough : texts.flatten.length ≤ bound) :
      Reader.repeated item bound (texts.flatten ++ rest) = some (items, rest) := by
    induction each generalizing bound with
    | nil => exact repeated_refused ends bound
    | @cons text found texts items one _ ih =>
      obtain ⟨some, taken⟩ := one
      have long := List.length_pos_iff.mpr some
      rw [List.flatten_cons, List.length_append] at enough
      obtain ⟨fewer, rfl⟩ : ∃ fewer, bound = fewer + 1 := ⟨bound - 1, by omega⟩
      have first : item (text ++ (texts.flatten ++ rest)) = _ := taken [] _ (List.forall_mem_nil _)
      rw [List.flatten_cons, List.append_assoc, repeated_succ first, ih fewer (by omega)]
      rfl
  exact repeated _ (by simp)

theorem separated_eq {texts : List (List Char)} {items : List α}
    (inside : ∀ c ∈ gap, isSpace c = true) (spaces : ∀ c ∈ back, isSpace c = true)
    (ends : sign ',' rest = none) (each : List.Forall₂ (Takes item) (text :: texts) items) :
    Reader.separated item (sign ',') (back ++ (text ++ (texts.flatMap (',' :: gap ++ ·) ++ rest))) =
      some (items, rest) := by
  cases each with
  | @cons _ found _ later first others =>
    have comma : Takes (sign ',') [','] () := takes_sign (by decide)
    have commas : List.Forall₂
        (fun text found => text ≠ [] ∧ Takes (sign ',' >>= fun _ => item) text found)
        (texts.map (',' :: gap ++ ·)) later := by
      rw [List.forall₂_map_left_iff]
      exact others.imp fun _ _ taken => ⟨List.cons_ne_nil _ _, comma.bind inside taken⟩
    have stops : (sign ',' >>= fun _ => item) rest = none := by
      change ((sign ',' rest).bind fun read => item read.2) = _
      rw [ends]
      rfl
    have more := many_eq commas stops
    rw [← List.flatMap_def] at more
    change ((item _).bind fun read => (Reader.many (sign ',' >>= fun _ => item) read.2).bind
      fun later => some (read.1 :: later.1, later.2)) = _
    rw [first back _ spaces, Option.bind_some, more]
    rfl

variable {first last : Char} (pair : Brackets first last)

include pair

theorem takes_listed {texts : List (List Char)} {items : List α}
    (inside : ∀ c ∈ gap, isSpace c = true) (behind : ∀ c ∈ back, isSpace c = true)
    (each : List.Forall₂ (Takes item) (text :: texts) items) :
    Takes (listed first last item)
      ([first] ++ (gap ++ (text ++ (texts.flatMap (',' :: gap ++ ·) ++ (back ++ [last]))))) items := by
  refine (takes_sign pair.opens).bind inside ?_
  intro margin rest spaces
  have ends : sign ',' (back ++ last :: rest) = none := refuses_sign pair.closes pair.noComma back rest behind
  have items := separated_eq inside spaces ends each
  have whole : text ++ (texts.flatMap (',' :: gap ++ ·) ++ (back ++ [last])) ++ rest =
      text ++ (texts.flatMap (',' :: gap ++ ·) ++ (back ++ last :: rest)) := by
    simp only [List.append_assoc, List.singleton_append]
  change (((Reader.separated item (sign ',') _ <|> _).bind fun read => (sign last read.2).bind
    fun _ => _) = _)
  rw [whole, items]
  change ((sign last (back ++ ([last] ++ rest))).bind fun read => some (_, read.2)) = _
  rw [takes_sign pair.closes back rest behind]
  rfl

theorem takes_listed_nil (refused : Refuses item last) : Takes (listed first last item) [first, last] [] := by
  refine @Takes.bind _ _ [] _ _ _ _ _ _ (takes_sign pair.opens) (List.forall_mem_nil _) ?_
  intro margin rest spaces
  have nothing : Reader.separated item (sign ',') (margin ++ ([last] ++ rest)) = none := by
    change ((item _).bind _) = _
    rw [List.singleton_append, refused margin rest spaces]
    rfl
  change (((Reader.separated item (sign ',') _ <|> _).bind fun read => (sign last read.2).bind
    fun _ => _) = _)
  rw [nothing]
  change ((sign last (margin ++ ([last] ++ rest))).bind fun read => some (_, read.2)) = _
  rw [takes_sign pair.closes margin rest spaces]
  rfl

end Combinators

theorem control_digits : ∀ n < 32, (twoDigits n).length = 2 ∧
    Toml.numbered? ('0' :: '0' :: twoDigits n) = some (Char.ofNat n) := by
  decide

theorem contents_escaped (c : Char) (rest : List Char) :
    contents (escaped c ++ rest) = Toml.before c (contents rest) := by
  unfold escaped
  split
  · rfl
  · rfl
  · rfl
  · rfl
  · rfl
  · rfl
  · rfl
  · rename_i quote backslash _ _ _ _ _
    split
    · rename_i control
      obtain ⟨two, number⟩ := control_digits c.toNat control
      obtain ⟨a, b, digits⟩ := List.length_eq_two.mp two
      rw [digits] at number ⊢
      simp [contents, number, Char.ofNat_toNat]
    · rename_i ink
      rw [List.singleton_append, contents.eq_5]
      · exact if_neg ink
      · exact quote
      all_goals
        intros
        exact backslash ‹_›

theorem contents_literal (content rest : List Char) :
    contents (content.flatMap escaped ++ '"' :: rest) = some (content, rest) := by
  induction content with
  | nil => rfl
  | cons c later ih =>
    rw [List.flatMap_cons, List.append_assoc, contents_escaped, ih]
    rfl

theorem takes_quoted (content : String) : Takes quoted (literal content).toList content := by
  intro gap rest spaces
  have shape : (literal content).toList ++ rest =
      ['"'] ++ (content.toList.flatMap escaped ++ '"' :: rest) := by
    rw [literal, String.toList_ofList]
    simp only [List.cons_append, List.append_assoc, List.nil_append]
  have opens : Takes (sign '"') ['"'] () := takes_sign (by decide)
  change ((sign '"' _).bind fun read => (contents read.2).bind fun read =>
    some (String.ofList read.1, read.2)) = _
  rw [shape, opens gap _ spaces, Option.bind_some, contents_literal, Option.bind_some,
    String.ofList_toList]

theorem takes_field {one : Reader Json} {text : List Char} (name : String) (taken : Takes one text found) :
    Takes (field one) ((literal name ++ ": ").toList ++ text) (name, found) := by
  have colon : ": ".toList = [':'] ++ [' '] := by decide
  have blank : ∀ c ∈ [' '], isSpace c = true := List.forall_mem_singleton.mpr (by decide)
  have shape : (literal name ++ ": ").toList ++ text =
      (literal name).toList ++ ([] ++ ([':'] ++ ([' '] ++ text))) := by
    rw [String.toList_append, colon]
    simp only [List.append_assoc, List.nil_append]
  rw [shape]
  refine (takes_quoted name).bind (List.forall_mem_nil _) ?_
  exact (takes_sign (by decide)).bind blank (taken.map (name, ·))

theorem refuses_quoted {c : Char} (stops : isSpace c = false) (other : '"' ≠ c) : Refuses quoted c :=
  (refuses_sign stops other).bind

theorem refuses_listed {first last c : Char} {item : Reader α} (stops : isSpace c = false)
    (other : first ≠ c) : Refuses (listed first last item) c :=
  (refuses_sign stops other).bind

theorem refuses_value (fuel : Nat) {c : Char} (stops : isSpace c = false)
    (other : '"' ≠ c ∧ '[' ≠ c ∧ '\x7b' ≠ c) : Refuses (value fuel) c := by
  obtain ⟨noText, noArray, noObject⟩ := other
  cases fuel with
  | zero => exact fun _ _ _ => rfl
  | succ fuel =>
    exact ((refuses_quoted stops noText).map _).orElse
      (((refuses_listed stops noArray).map _).orElse ((refuses_listed stops noObject).map _))

def indent (depth : Nat) : List Char := '\n' :: List.replicate (2 * depth) ' '

theorem indent_spaces (depth : Nat) : ∀ c ∈ indent depth, isSpace c = true := by
  intro c present
  rcases List.mem_cons.mp present with rfl | blank
  · decide
  · rw [List.eq_of_mem_replicate blank]
    decide

theorem intercalate_cons (comma text : List Char) (later : List (List Char)) :
    comma.intercalate (text :: later) = text ++ later.flatMap (comma ++ ·) := by
  induction later generalizing text with
  | nil => simp
  | cons next more ih =>
    rw [List.intercalate_cons_cons, ih, List.flatMap_cons]
    simp only [List.append_assoc]

theorem bracketed_toList (first last : String) (depth : Nat) (text : String) (later : List String) :
    (bracketed first last depth (text :: later)).toList =
      first.toList ++ (indent (depth + 1) ++ (text.toList ++
        ((later.map String.toList).flatMap (',' :: indent (depth + 1) ++ ·) ++
          (indent depth ++ last.toList)))) := by
  have newline : "\n".toList = ['\n'] := by decide
  have comma : ",\n".toList = [',', '\n'] := by decide
  have blanks (depth : Nat) : (margin depth).toList = List.replicate (2 * depth) ' ' :=
    String.toList_ofList
  have spaced (text : String) : (margin (depth + 1) ++ text).toList =
      List.replicate (2 * (depth + 1)) ' ' ++ text.toList := by
    rw [String.toList_append, blanks]
  change (first ++ "\n" ++ ",\n".intercalate ((text :: later).map (margin (depth + 1) ++ ·)) ++ "\n" ++
    margin depth ++ last).toList = _
  simp only [String.toList_append, String.toList_intercalate, List.map_cons, intercalate_cons, newline,
    comma, blanks]
  simp only [indent, List.map_map, List.flatMap_map, Function.comp_apply, spaced, List.append_assoc,
    List.cons_append, List.nil_append]

theorem length_le_flatMap {front line : List Char} {lines : List (List Char)} (present : line ∈ lines) :
    line.length ≤ (lines.flatMap (front ++ ·)).length := by
  have listed : front ++ line ∈ lines.map (front ++ ·) := List.mem_map_of_mem present
  have inside := (List.infix_of_mem_flatten listed).length_le
  rw [List.length_append] at inside
  rw [List.flatMap_def]
  exact Nat.le_of_add_left_le inside

theorem length_lt_bracketed {first last line : String} {depth : Nat} {texts : List String}
    (present : line ∈ texts) : line.toList.length < (bracketed first last depth texts).toList.length := by
  cases texts with
  | nil => cases present
  | cons head later =>
    rw [bracketed_toList]
    simp only [List.length_append, indent, List.length_cons]
    rcases List.mem_cons.mp present with rfl | listed
    · omega
    · have inside := @length_le_flatMap (',' :: indent (depth + 1)) _ _
        (List.mem_map_of_mem listed : line.toList ∈ later.map String.toList)
      simp only [indent] at inside
      omega

theorem head?_bracketed {first last : String} {depth : Nat} {texts : List String}
    (opens : first.toList = [c]) : (bracketed first last depth texts).toList.head? = some c := by
  cases texts with
  | nil =>
    change (first ++ last).toList.head? = some c
    simp [opens]
  | cons head later => simp [bracketed_toList, opens]

theorem takes_bracketed {first last : String} {c d : Char} {item : Reader α} {depth : Nat}
    {texts : List String} {items : List α} (pair : Brackets c d) (opens : first.toList = [c])
    (ends : last.toList = [d]) (refused : Refuses item d)
    (each : List.Forall₂ (Takes item) (texts.map String.toList) items) :
    Takes (listed c d item) (bracketed first last depth texts).toList items := by
  cases texts with
  | nil =>
    cases each
    change Takes _ (first ++ last).toList []
    rw [String.toList_append, opens, ends]
    exact takes_listed_nil pair refused
  | cons text later =>
    rw [bracketed_toList, opens, ends]
    exact takes_listed pair (indent_spaces _) (indent_spaces _) each

theorem head?_written (item : Json) (depth : Nat) : ∃ c, (written depth item).toList.head? = some c := by
  cases item with
  | text content => exact ⟨'"', by simp [written, literal]⟩
  | array items => exact ⟨'[', head?_bracketed (by decide)⟩
  | object fields => exact ⟨'\x7b', head?_bracketed (by decide)⟩

theorem exists_succ {item : Json} {depth fuel : Nat} (enough : (written depth item).toList.length ≤ fuel) :
    ∃ fewer, fuel = fewer + 1 := by
  obtain ⟨c, begins⟩ := head?_written item depth
  cases fuel with
  | zero =>
    rw [List.eq_nil_of_length_eq_zero (Nat.le_zero.mp enough)] at begins
    cases begins
  | succ fewer => exact ⟨fewer, rfl⟩

mutual
theorem takes_written : ∀ (item : Json) (depth fuel : Nat), (written depth item).toList.length ≤ fuel →
    Takes (value fuel) (written depth item).toList item
  | .text content => by
    intro depth fuel enough
    obtain ⟨fuel, rfl⟩ := exists_succ enough
    exact ((takes_quoted content).map Json.text).orElse_left
  | .array items => by
    intro depth fuel enough
    obtain ⟨fuel, rfl⟩ := exists_succ enough
    have each := takes_writtenItems items (depth + 1) fuel fun line present =>
      Nat.le_of_lt_succ ((length_lt_bracketed present).trans_le enough)
    have refused : Refuses (value fuel) ']' := refuses_value fuel squares.closes (by decide)
    have taken : Takes (listed '[' ']' (value fuel)) (written depth (.array items)).toList items :=
      takes_bracketed squares (by decide) (by decide) refused each
    have noText : Refuses (Json.text <$> quoted) '[' := (refuses_quoted squares.opens (by decide)).map _
    exact .orElse_right (head?_bracketed (by decide)) noText (taken.map Json.array).orElse_left
  | .object fields => by
    intro depth fuel enough
    obtain ⟨fuel, rfl⟩ := exists_succ enough
    have each := takes_writtenFields fields (depth + 1) fuel fun line present =>
      Nat.le_of_lt_succ ((length_lt_bracketed present).trans_le enough)
    have refused : Refuses (field (value fuel)) '\x7d' := (refuses_quoted braces.closes (by decide)).bind
    have taken : Takes (listed '\x7b' '\x7d' (field (value fuel))) (written depth (.object fields)).toList
        fields :=
      takes_bracketed braces (by decide) (by decide) refused each
    have begins : (written depth (.object fields)).toList.head? = some '\x7b' := head?_bracketed (by decide)
    have noText : Refuses (Json.text <$> quoted) '\x7b' := (refuses_quoted braces.opens (by decide)).map _
    have noArray : Refuses (Json.array <$> listed '[' ']' (value fuel)) '\x7b' :=
      (refuses_listed braces.opens (by decide)).map _
    exact .orElse_right begins noText (.orElse_right begins noArray (taken.map Json.object))

theorem takes_writtenItems : ∀ (items : List Json) (depth fuel : Nat),
    (∀ text ∈ writtenItems depth items, text.toList.length ≤ fuel) →
    List.Forall₂ (Takes (value fuel)) ((writtenItems depth items).map String.toList) items
  | [], _, _, _ => .nil
  | item :: rest, depth, fuel, enough => by
    obtain ⟨first, later⟩ := List.forall_mem_cons.mp enough
    exact .cons (takes_written item depth fuel first) (takes_writtenItems rest depth fuel later)

theorem takes_writtenFields : ∀ (fields : List (String × Json)) (depth fuel : Nat),
    (∀ text ∈ writtenFields depth fields, text.toList.length ≤ fuel) →
    List.Forall₂ (Takes (field (value fuel))) ((writtenFields depth fields).map String.toList) fields
  | [], _, _, _ => .nil
  | (name, item) :: rest, depth, fuel, enough => by
    obtain ⟨first, later⟩ := List.forall_mem_cons.mp enough
    rw [String.toList_append, List.length_append] at first
    have taken := takes_written item depth fuel (by omega)
    refine .cons ?_ (takes_writtenFields rest depth fuel later)
    rw [String.toList_append]
    exact takes_field name taken
end

theorem read?_pretty (item : Json) {behind : String} (spaces : ∀ c ∈ behind.toList, isSpace c = true) :
    read? (item.pretty ++ behind) = some item := by
  have enough : (written 0 item).toList.length ≤ (item.pretty ++ behind).length := by
    rw [String.length_append]
    exact Nat.le_add_right _ _
  have whole : value (item.pretty ++ behind).length (item.pretty ++ behind).toList =
      some (item, behind.toList) := by
    rw [String.toList_append]
    exact takes_written item 0 _ enough [] _ (List.forall_mem_nil _)
  simp only [read?, whole, List.all_eq_true.mpr spaces, if_true]

end TestbedWatchdog.Json
