import Mathlib.Data.Char
import Mathlib.Data.String.Basic
import Mathlib.Tactic.Tauto

namespace TestbedWatchdog.Text

theorem last_digit {m n : Nat} (below : m < n) :
    m / 64 < n / 64 ∨ m / 64 = n / 64 ∧ m % 64 < n % 64 := by
  omega

theorem digits_lt {m n : Nat} (below : m < n) :
    m / 262144 < n / 262144 ∨ m / 262144 = n / 262144 ∧
      (m / 4096 % 64 < n / 4096 % 64 ∨ m / 4096 % 64 = n / 4096 % 64 ∧
        (m / 64 % 64 < n / 64 % 64 ∨ m / 64 % 64 = n / 64 % 64 ∧ m % 64 < n % 64)) := by
  have shifts (k : Nat) : k / 4096 = k / 64 / 64 ∧ k / 262144 = k / 64 / 64 / 64 := by omega
  rw [(shifts m).1, (shifts n).1, (shifts m).2, (shifts n).2]
  rcases last_digit below with high | ⟨high, low⟩
  · rcases last_digit high with higher | ⟨higher, low⟩
    · rcases last_digit higher with highest | ⟨highest, low⟩
      · exact .inl highest
      · exact .inr ⟨highest, .inl low⟩
    · rw [higher]
      exact .inr ⟨rfl, .inr ⟨rfl, .inl low⟩⟩
  · rw [high]
    exact .inr ⟨rfl, .inr ⟨rfl, .inr ⟨rfl, low⟩⟩⟩

-- A character with a longer code is the greater one, and among codes of one length the bytes are digits to the
-- base of 64; so the order is settled within the codes, whatever comes behind them.
theorem utf8EncodeChar_lt {c d : Char} (before : c < d) (rest other : List UInt8) :
    String.utf8EncodeChar c ++ rest < String.utf8EncodeChar d ++ other := by
  have below : c.val.toNat < d.val.toNat := before
  have top : d.val.toNat < 0x110000 := by
    have valid := d.valid
    unfold UInt32.isValidChar Nat.isValidChar at valid
    omega
  unfold String.utf8EncodeChar
  generalize c.val.toNat = m at below
  generalize d.val.toNat = n at below top
  simp only
  by_cases longest : 65535 < m
  · have four {k : Nat} (longest : 65535 < k) : ¬ k ≤ 127 ∧ ¬ k ≤ 2047 ∧ ¬ k ≤ 65535 := by omega
    obtain ⟨m1, m2, m3⟩ := four longest
    obtain ⟨n1, n2, n3⟩ := four (longest.trans below)
    rw [if_neg m1, if_neg m2, if_neg m3, if_neg n1, if_neg n2, if_neg n3]
    simp only [List.cons_append, List.nil_append, List.cons_lt_cons_iff, UInt8.lt_iff_toNat_lt,
      ← UInt8.toNat_inj, UInt8.toNat_ofNat']
    simp (disch := omega) only [Nat.mod_eq_of_lt, Nat.add_lt_add_iff_right]
    simp only [Nat.add_right_cancel_iff]
    have digits := digits_lt below
    tauto
  · split_ifs <;> simp only [List.cons_append, List.nil_append, List.cons_lt_cons_iff,
      UInt8.lt_iff_toNat_lt, ← UInt8.toNat_inj, UInt8.toNat_ofNat'] <;> omega

theorem flatMap_utf8EncodeChar_lt {earlier later : List Char} (before : earlier < later) :
    earlier.flatMap String.utf8EncodeChar < later.flatMap String.utf8EncodeChar := by
  induction before with
  | @nil c rest =>
    rw [List.flatMap_nil, List.flatMap_cons]
    cases code : String.utf8EncodeChar c with
    | nil => exact absurd code String.utf8EncodeChar_ne_nil
    | cons byte more => exact List.nil_lt_cons _ _
  | rel first => exact utf8EncodeChar_lt first _ _
  | cons rest ih => exact List.append_left_lt ih

def bytes (text : String) : List UInt8 := text.toByteArray.data.toList

theorem bytes_eq (text : String) : bytes text = text.toList.flatMap String.utf8EncodeChar := by
  have encoded := @String.toByteArray_ofList text.toList
  rw [String.ofList_toList] at encoded
  simp [bytes, encoded, List.utf8Encode]

theorem bytes_lt_iff {earlier later : String} : bytes earlier < bytes later ↔ earlier < later := by
  have kept {earlier later : String} (before : earlier < later) : bytes earlier < bytes later := by
    rw [bytes_eq, bytes_eq]
    exact flatMap_utf8EncodeChar_lt (String.lt_iff_toList_lt.mp before)
  constructor
  · intro before
    rcases lt_trichotomy earlier later with less | rfl | greater
    · exact less
    · exact absurd before (List.lt_irrefl _)
    · exact absurd (kept greater) (List.lt_asymm before)
  · exact kept

end TestbedWatchdog.Text
