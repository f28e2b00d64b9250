import Mathlib.Data.List.TakeWhile
import TestbedWatchdog.CommandLine.Reader

namespace TestbedWatchdog

namespace Numeral

theorem digits?_toDigits (n : Nat) : digits? (Nat.toDigits 10 n) = some n := by
  have some : (Nat.toDigits 10 n).isEmpty = false := List.isEmpty_eq_false_iff.mpr Nat.toDigits_ne_nil
  have digits : (Nat.toDigits 10 n).all Char.isDigit = true :=
    List.all_eq_true.mpr fun _ => Nat.isDigit_of_mem_toDigits (by decide) (by decide)
  rw [digits?, some, digits]
  exact congrArg Option.some (Nat.ofDigitChars_toDigits (by decide) (by decide))

theorem signed?_toDigits (n : Nat) :
    unsigned? (Nat.toDigits 10 n) = some n ∧ signed? (Nat.toDigits 10 n) = some n := by
  have read := digits?_toDigits n
  obtain ⟨first, rest, spelled⟩ := List.exists_cons_of_ne_nil (@Nat.toDigits_ne_nil n 10)
  have digit : first.isDigit = true :=
    Nat.isDigit_of_mem_toDigits (by decide) (by decide) (spelled ▸ List.mem_cons_self)
  have noPlus : first ≠ '+' := by
    rintro rfl
    cases digit
  have noMinus : first ≠ '-' := by
    rintro rfl
    cases digit
  rw [spelled] at read ⊢
  constructor
  · simp [unsigned?, noPlus, read]
  · simp [signed?, unsigned?, noPlus, noMinus, read]

theorem word64_toString (n : UInt64) : word64 (toString n) = .ok n := by
  have digits : (toString n).toList = Nat.toDigits 10 n.toNat := Nat.toList_repr
  rw [word64, digits, (signed?_toDigits n.toNat).1]
  simp [n.toNat_lt]

theorem word32_toString (n : UInt32) : word32 (toString n) = .ok n := by
  have digits : (toString n).toList = Nat.toDigits 10 n.toNat := Nat.toList_repr
  rw [word32, digits, (signed?_toDigits n.toNat).2]
  simp [n.toNat_lt]

end Numeral

namespace Argument

variable {name value : List Char}

theorem ofText_dashes {text : String} (some : name ≠ []) (begins : text.toList = '-' :: '-' :: name) :
    ofText text = attachment name := by
  obtain ⟨first, rest, rfl⟩ := List.exists_cons_of_ne_nil some
  rw [ofText, begins]
  rfl

variable (free : ∀ c ∈ name, decide (c ≠ '=') = true)

include free

theorem attachment_bare : attachment name = .long (String.ofList name) none := by
  have ends : name.dropWhile (· ≠ '=') = [] := List.dropWhile_eq_nil_iff.mpr free
  rw [attachment, ends]

theorem attachment_value :
    attachment (name ++ '=' :: value) = .long (String.ofList name) (some (String.ofList value)) := by
  have behind : (name ++ '=' :: value).dropWhile (· ≠ '=') = '=' :: value := by
    rw [List.dropWhile_append_of_pos free]
    simp
  have front : (name ++ '=' :: value).takeWhile (· ≠ '=') = name := by
    rw [List.takeWhile_append_of_pos free]
    simp
  rw [attachment, behind, front]

end Argument

def Meaning.name : Meaning → String
  | switch .verbose => "verbose"
  | switch .once => "once"
  | switch .dryRun => "dry-run"
  | switch .json => "json"
  | setting .config => "config"
  | setting .interval => "interval"
  | setting .failureLimit => "failure-limit"
  | setting .rebootLimit => "reboot-limit"
  | help => "help"
  | version => "version"

theorem Meaning.name_free (meaning : Meaning) :
    meaning.name.toList ≠ [] ∧ (meaning.name.toList.all fun c => c ≠ '=') = true := by
  cases meaning with
  | switch which => cases which <;> decide
  | setting which => cases which <;> decide
  | help => decide
  | version => decide

inductive Choice where
  | config (path : String)
  | verbose
  | once
  | dryRun
  | json
  | interval (seconds : UInt64)
  | failureLimit (limit : UInt32)
  | rebootLimit (limit : UInt32)
deriving DecidableEq

namespace Choice

def meaning : Choice → Meaning
  | config _ => .setting .config
  | verbose => .switch .verbose
  | once => .switch .once
  | dryRun => .switch .dryRun
  | json => .switch .json
  | interval _ => .setting .interval
  | failureLimit _ => .setting .failureLimit
  | rebootLimit _ => .setting .rebootLimit

def value? : Choice → Option String
  | config path => some path
  | interval seconds => some (toString seconds)
  | failureLimit limit | rebootLimit limit => some (toString limit)
  | verbose | once | dryRun | json => none

-- In one argument: two dashes and the name, and the value behind an equals sign.
def spelled (choice : Choice) : String :=
  match choice.value? with
  | some value => "--" ++ choice.meaning.name ++ "=" ++ value
  | none => "--" ++ choice.meaning.name

theorem ofText_spelled (choice : Choice) :
    Argument.ofText choice.spelled = .long choice.meaning.name choice.value? := by
  have dashes : "--".toList = ['-', '-'] := by decide
  have equals : "=".toList = ['='] := by decide
  obtain ⟨named, unequal⟩ := choice.meaning.name_free
  have free := List.all_eq_true.mp unequal
  cases given : choice.value? with
  | none =>
    have text : choice.spelled.toList = '-' :: '-' :: choice.meaning.name.toList := by
      simp only [spelled, given, String.toList_append, dashes, List.cons_append, List.nil_append]
    rw [Argument.ofText_dashes named text, Argument.attachment_bare free, String.ofList_toList]
  | some value =>
    have text : choice.spelled.toList =
        '-' :: '-' :: (choice.meaning.name.toList ++ '=' :: value.toList) := by
      simp only [spelled, given, String.toList_append, dashes, equals, List.append_assoc, List.cons_append,
        List.nil_append]
    rw [Argument.ofText_dashes (List.append_ne_nil_of_left_ne_nil named _) text,
      Argument.attachment_value free, String.ofList_toList, String.ofList_toList]

end Choice

end TestbedWatchdog
