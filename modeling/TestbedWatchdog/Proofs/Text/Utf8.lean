import TestbedWatchdog.Proofs.Text.ByteOrder
import TestbedWatchdog.Text.Utf8

namespace TestbedWatchdog.Text

namespace Utf8

variable {byte : UInt8} {state : Option Pending} {front back rest : List UInt8}
  {range next : UInt8 × UInt8} {later : List (UInt8 × UInt8)} {value : Nat} {c : Char}

-- A character that no byte of ASCII can carry on.
def Pending.Proper (pending : Pending) : Prop := ∀ range ∈ pending.next :: pending.later, 0x80 ≤ range.1

theorem opening_proper (opened : Utf8.opening byte = some pending) : pending.Proper := by
  have proper (low high : UInt8) (later : List (UInt8 × UInt8)) (value : Nat) (above : 0x80 ≤ low)
      (tails : ∀ range ∈ later, range = continuation) : Pending.Proper ⟨(low, high), later, value⟩ := by
    refine List.forall_mem_cons.mpr ⟨above, fun range member => ?_⟩
    rw [tails range member]
    exact UInt8.le_refl 0x80
  unfold opening at opened
  split_ifs at opened <;> cases opened <;> exact proper _ _ _ _ (by decide) (by simp)

theorem start_proper : ∀ pending ∈ (start byte).2, pending.Proper := by
  unfold start
  split
  · intro pending none
    cases none
  · cases opened : Utf8.opening byte with
    | none =>
      intro pending none
      cases none
    | some first =>
      intro pending same
      obtain rfl := Option.some.inj same
      exact opening_proper opened

theorem step_proper (proper : ∀ pending ∈ state, pending.Proper) :
    ∀ pending ∈ (step state byte).2, pending.Proper := by
  cases state with
  | none => exact start_proper
  | some first =>
    have ranges : first.Proper := proper first rfl
    simp only [step]
    split
    · cases behind : first.later with
      | nil =>
        intro pending none
        cases none
      | cons next later =>
        intro pending same
        obtain rfl := Option.some.inj same
        unfold Pending.Proper at ranges
        rw [behind] at ranges
        exact (List.forall_mem_cons.mp ranges).2
    · exact start_proper

-- What is open before a byte of ASCII is given up, as it would be at the end.
theorem step_ascii (ascii : byte < 0x80) (proper : ∀ pending ∈ state, pending.Proper) :
    step state byte = (pieces state [] ++ [some (Char.ofNat byte.toNat)], none) := by
  have alone : start byte = ([some (Char.ofNat byte.toNat)], none) := if_pos ascii
  cases state with
  | none => exact alone
  | some first =>
    have beyond : ¬ (first.next.1 ≤ byte ∧ byte ≤ first.next.2) := by
      intro fits
      have low := proper first rfl first.next List.mem_cons_self
      exact absurd (UInt8.le_trans low fits.1) (UInt8.not_le.mpr ascii)
    simp only [step, if_neg beyond, alone, pieces, List.cons_append, List.nil_append]

-- The induction goes over the bytes before; what is open on the way is always proper.
theorem pieces_ascii (ascii : byte < 0x80) (proper : ∀ pending ∈ state, pending.Proper) :
    pieces state (front ++ byte :: back) =
      pieces state front ++ some (Char.ofNat byte.toNat) :: pieces none back := by
  induction front generalizing state with
  | nil =>
    simp only [List.nil_append, pieces, step_ascii ascii proper, List.append_assoc, List.singleton_append]
  | cons first rest ih =>
    simp only [List.cons_append, pieces, ih (step_proper proper), List.append_assoc]

theorem lossy_ascii (ascii : byte < 0x80) :
    lossy (front ++ byte :: back) = lossy front ++ Char.ofNat byte.toNat :: lossy back := by
  have cut := @pieces_ascii byte none front back ascii fun _ none => by cases none
  rw [lossy, cut, List.map_append, List.map_cons]
  rfl

theorem lossy_newline : lossy (front ++ 0x0A :: back) = lossy front ++ '\n' :: lossy back :=
  lossy_ascii (by decide)

theorem lossy_append (complete : ∀ last ∈ front.getLast?, last = 0x0A) :
    lossy (front ++ back) = lossy front ++ lossy back := by
  rcases List.eq_nil_or_concat' front with rfl | ⟨earlier, last, rfl⟩
  · rfl
  · obtain rfl := complete last (by simp)
    rw [List.append_assoc, List.singleton_append, lossy_newline, lossy_newline, List.append_assoc]
    rfl

theorem lossy_complete (complete : ∀ last ∈ front.getLast?, last = 0x0A) :
    ∀ last ∈ (lossy front).getLast?, last = '\n' := by
  rcases List.eq_nil_or_concat' front with rfl | ⟨earlier, last, rfl⟩
  · intro last none
    cases none
  · obtain rfl := complete last (by simp)
    intro last ends
    rw [lossy_newline, List.getLast?_append] at ends
    exact (Option.some.inj ends).symm

theorem step_last (fits : range.1 ≤ byte ∧ byte ≤ range.2) :
    step (some ⟨range, [], value⟩) byte =
      ([some (Char.ofNat (value * 64 + (byte.toNat - 0x80)))], none) :=
  if_pos fits

theorem step_inner (fits : range.1 ≤ byte ∧ byte ≤ range.2) :
    step (some ⟨range, next :: later, value⟩) byte =
      ([], some ⟨next, later, value * 64 + (byte.toNat - 0x80)⟩) :=
  if_pos fits

theorem within_iff {low high : UInt8} :
    (low ≤ byte ∧ byte ≤ high) ↔ low.toNat ≤ byte.toNat ∧ byte.toNat ≤ high.toNat := by
  rw [UInt8.le_iff_toNat_le, UInt8.le_iff_toNat_le]

def IsTail (byte : UInt8) : Prop := 0x80 ≤ byte.toNat ∧ byte.toNat ≤ 0xBF

theorem IsTail.fits (tail : IsTail byte) : continuation.1 ≤ byte ∧ byte ≤ continuation.2 :=
  within_iff.mpr tail

theorem not_ascii (high : 0x80 ≤ byte.toNat) : ¬ byte < 0x80 := fun low =>
  absurd (UInt8.lt_iff_toNat_lt.mp low) (Nat.not_lt.mpr high)

-- The first byte of a code of two, of three and of four bytes. The second byte of a longer code is held to
-- a narrower range where the code would otherwise be too long, a surrogate or beyond the last character.
theorem start_two (first : 0xC2 ≤ byte.toNat ∧ byte.toNat ≤ 0xDF) :
    start byte = ([], some ⟨continuation, [], byte.toNat - 0xC0⟩) := by
  have two : 0xC2 ≤ byte ∧ byte ≤ 0xDF := within_iff.mpr first
  have high : ¬ byte < 0x80 := not_ascii (by omega)
  simp only [start, if_neg high, opening, if_pos two]

theorem start_three (first : 0xE0 ≤ byte.toNat ∧ byte.toNat ≤ 0xEF) :
    ∃ range, start byte = ([], some ⟨range, [continuation], byte.toNat - 0xE0⟩) ∧
      ∀ second, IsTail second → (byte.toNat = 0xE0 → 0xA0 ≤ second.toNat) →
        (byte.toNat = 0xED → second.toNat ≤ 0x9F) → range.1 ≤ second ∧ second ≤ range.2 := by
  by_cases least : byte = 0xE0
  · subst least
    exact ⟨_, rfl, fun second tail low _ => within_iff.mpr ⟨low rfl, tail.2⟩⟩
  · by_cases surrogate : byte = 0xED
    · subst surrogate
      exact ⟨_, rfl, fun second tail _ high => within_iff.mpr ⟨tail.1, high rfl⟩⟩
    · have two : ¬ (0xC2 ≤ byte ∧ byte ≤ 0xDF) := by
        rw [within_iff]
        exact fun two => absurd (two.2.trans_lt (by decide)) (Nat.not_lt.mpr first.1)
      have three : 0xE1 ≤ byte ∧ byte ≤ 0xEF := by
        refine within_iff.mpr ⟨Nat.lt_of_le_of_ne first.1 fun same => least ?_, first.2⟩
        exact UInt8.toNat_inj.mp same.symm
      have high : ¬ byte < 0x80 := not_ascii (by omega)
      refine ⟨continuation, ?_, fun second tail _ _ => tail.fits⟩
      simp only [start, if_neg high, opening, if_neg two, if_neg least,
        if_neg surrogate, if_pos three]

theorem start_four (first : 0xF0 ≤ byte.toNat ∧ byte.toNat ≤ 0xF4) :
    ∃ range, start byte = ([], some ⟨range, [continuation, continuation], byte.toNat - 0xF0⟩) ∧
      ∀ second, IsTail second → (byte.toNat = 0xF0 → 0x90 ≤ second.toNat) →
        (byte.toNat = 0xF4 → second.toNat ≤ 0x8F) → range.1 ≤ second ∧ second ≤ range.2 := by
  by_cases least : byte = 0xF0
  · subst least
    exact ⟨_, rfl, fun second tail low _ => within_iff.mpr ⟨low rfl, tail.2⟩⟩
  · by_cases greatest : byte = 0xF4
    · subst greatest
      exact ⟨_, rfl, fun second tail _ high => within_iff.mpr ⟨tail.1, high rfl⟩⟩
    · have between : 0xF1 ≤ byte.toNat ∧ byte.toNat ≤ 0xF3 := by
        have above : byte.toNat ≠ 0xF0 := fun same => least (UInt8.toNat_inj.mp same)
        have below : byte.toNat ≠ 0xF4 := fun same => greatest (UInt8.toNat_inj.mp same)
        omega
      have four : 0xF1 ≤ byte ∧ byte ≤ 0xF3 := within_iff.mpr between
      have shorter (low high : UInt8) (short : high.toNat < 0xF0) : ¬ (low ≤ byte ∧ byte ≤ high) := by
        rw [within_iff]
        omega
      have three (other : UInt8) (short : other.toNat < 0xF0) : byte ≠ other := by
        rintro rfl
        omega
      have high : ¬ byte < 0x80 := not_ascii (by omega)
      refine ⟨continuation, ?_, fun second tail _ _ => tail.fits⟩
      simp only [start, if_neg high, opening, if_neg (shorter _ 0xDF (by decide)),
        if_neg (three 0xE0 (by decide)), if_neg (three 0xED (by decide)),
        if_neg (shorter _ 0xEF (by decide)), if_neg least, if_pos four]

theorem toNat_ofNat {n : Nat} (small : n < 256) : (UInt8.ofNat n).toNat = n := by
  rw [UInt8.toNat_ofNat', Nat.mod_eq_of_lt small]

theorem isTail_ofNat (n : Nat) : IsTail (UInt8.ofNat (n % 64 + 128)) := by
  rw [IsTail, toNat_ofNat (by omega)]
  omega

section

variable {first second third fourth : UInt8}

theorem pieces_two (front : 0xC2 ≤ first.toNat ∧ first.toNat ≤ 0xDF) (tail : IsTail second) :
    pieces none (first :: second :: rest) =
      some (Char.ofNat ((first.toNat - 0xC0) * 64 + (second.toNat - 0x80))) :: pieces none rest := by
  have opened : step none first = ([], some ⟨continuation, [], first.toNat - 0xC0⟩) := start_two front
  simp only [pieces, opened, step_last tail.fits, List.nil_append, List.singleton_append]

theorem pieces_three (front : 0xE0 ≤ first.toNat ∧ first.toNat ≤ 0xEF) (tail : IsTail second)
    (shortest : first.toNat = 0xE0 → 0xA0 ≤ second.toNat)
    (scalar : first.toNat = 0xED → second.toNat ≤ 0x9F) (last : IsTail third) :
    pieces none (first :: second :: third :: rest) =
      some (Char.ofNat (((first.toNat - 0xE0) * 64 + (second.toNat - 0x80)) * 64 + (third.toNat - 0x80)))
        :: pieces none rest := by
  obtain ⟨range, opened, fits⟩ := start_three front
  have opened : step none first = _ := opened
  simp only [pieces, opened, step_inner (fits second tail shortest scalar), step_last last.fits,
    List.nil_append, List.singleton_append]

theorem pieces_four (front : 0xF0 ≤ first.toNat ∧ first.toNat ≤ 0xF4) (tail : IsTail second)
    (shortest : first.toNat = 0xF0 → 0x90 ≤ second.toNat)
    (known : first.toNat = 0xF4 → second.toNat ≤ 0x8F) (inner : IsTail third) (last : IsTail fourth) :
    pieces none (first :: second :: third :: fourth :: rest) =
      some (Char.ofNat ((((first.toNat - 0xF0) * 64 + (second.toNat - 0x80)) * 64 +
        (third.toNat - 0x80)) * 64 + (fourth.toNat - 0x80))) :: pieces none rest := by
  obtain ⟨range, opened, fits⟩ := start_four front
  have opened : step none first = _ := opened
  simp only [pieces, opened, step_inner (fits second tail shortest known), step_inner inner.fits,
    step_last last.fits, List.nil_append, List.singleton_append]

end

theorem pieces_utf8EncodeChar (c : Char) (rest : List UInt8) :
    pieces none (String.utf8EncodeChar c ++ rest) = some c :: pieces none rest := by
  have whole : Char.ofNat c.val.toNat = c := Char.ofNat_toNat c
  have valid : c.val.toNat < 0xD800 ∨ 0xDFFF < c.val.toNat ∧ c.val.toNat < 0x110000 := c.valid
  unfold String.utf8EncodeChar
  generalize c.val.toNat = n at whole valid
  have last : (UInt8.ofNat (n % 64 + 128)).toNat = n % 64 + 128 := toNat_ofNat (by omega)
  have inner : (UInt8.ofNat (n / 64 % 64 + 128)).toNat = n / 64 % 64 + 128 := toNat_ofNat (by omega)
  have second : (UInt8.ofNat (n / 4096 % 64 + 128)).toNat = n / 4096 % 64 + 128 := toNat_ofNat (by omega)
  simp only
  split_ifs with one two three
  · have byte : (UInt8.ofNat n).toNat = n := toNat_ofNat (by omega)
    have ascii : UInt8.ofNat n < 0x80 := by
      rw [UInt8.lt_iff_toNat_lt, byte]
      exact Nat.lt_succ_of_le one
    have cut := @pieces_ascii (UInt8.ofNat n) none [] rest ascii fun _ none => by cases none
    rw [byte, whole] at cut
    exact cut
  · have first : (UInt8.ofNat (n / 64 % 32 + 192)).toNat = n / 64 % 32 + 192 := toNat_ofNat (by omega)
    have number : (n / 64 % 32 + 192 - 0xC0) * 64 + (n % 64 + 128 - 0x80) = n := by omega
    rw [List.cons_append, List.singleton_append, pieces_two (by omega) (isTail_ofNat n), first, last,
      number, whole]
  · have first : (UInt8.ofNat (n / 4096 % 16 + 224)).toNat = n / 4096 % 16 + 224 :=
      toNat_ofNat (by omega)
    have number : ((n / 4096 % 16 + 224 - 0xE0) * 64 + (n / 64 % 64 + 128 - 0x80)) * 64 +
        (n % 64 + 128 - 0x80) = n := by omega
    rw [List.cons_append, List.cons_append, List.singleton_append, pieces_three (by omega)
      (isTail_ofNat _) (by omega) (by omega) (isTail_ofNat n), first, inner, last, number, whole]
  · have first : (UInt8.ofNat (n / 262144 % 8 + 240)).toNat = n / 262144 % 8 + 240 :=
      toNat_ofNat (by omega)
    have number : (((n / 262144 % 8 + 240 - 0xF0) * 64 + (n / 4096 % 64 + 128 - 0x80)) * 64 +
        (n / 64 % 64 + 128 - 0x80)) * 64 + (n % 64 + 128 - 0x80) = n := by omega
    rw [List.cons_append, List.cons_append, List.cons_append, List.singleton_append,
      pieces_four (by omega) (isTail_ofNat _) (by omega) (by omega) (isTail_ofNat _) (isTail_ofNat n),
      first, second, inner, last, number, whole]

theorem pieces_encoded (text : List Char) :
    pieces none (text.flatMap String.utf8EncodeChar) = text.map some := by
  induction text with
  | nil => rfl
  | cons c rest ih => rw [List.flatMap_cons, pieces_utf8EncodeChar, ih, List.map_cons]

theorem lossy_encoded (text : List Char) : lossy (text.flatMap String.utf8EncodeChar) = text := by
  rw [lossy, pieces_encoded, List.map_map]
  exact List.map_id text

end Utf8

def decoded (bytes : List UInt8) : String := String.ofList (Utf8.lossy bytes)

@[simp] theorem decoded_toList (bytes : List UInt8) : (decoded bytes).toList = Utf8.lossy bytes :=
  String.toList_ofList

theorem decoded_bytes (text : String) : decoded (bytes text) = text := by
  rw [decoded, bytes_eq, Utf8.lossy_encoded, String.ofList_toList]

end TestbedWatchdog.Text
