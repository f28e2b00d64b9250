import TestbedWatchdog.Toml.Reader

namespace TestbedWatchdog.Toml.Reader

def Yields (reader : Reader α) (fits : α → Prop) : Prop :=
  ∀ text found rest, reader text = some (found, rest) → fits found

variable {reader other item : Reader α} {fits : α → Prop}

theorem yields_any (reader : Reader α) : Yields reader fun _ => True := fun _ _ _ _ => trivial

theorem yields_pure (fit : fits value) : Yields (pure value) fits := by
  intro text found rest read
  cases read
  exact fit

theorem yields_failure : Yields (failure : Reader α) fits := by
  intro text found rest read
  cases read

theorem yields_lift {found : Option α} (fit : ∀ value, found = some value → fits value) :
    Yields (liftM found) fits := by
  intro text value rest read
  obtain ⟨value, same, read⟩ := Option.bind_eq_some_iff.mp read
  cases read
  exact fit value same

theorem Yields.bind {next : α → Reader β} {after : β → Prop} (first : Yields reader fits)
    (second : ∀ value, fits value → Yields (next value) after) : Yields (reader >>= next) after := by
  intro text found rest read
  obtain ⟨⟨value, between⟩, taken, rest⟩ := Option.bind_eq_some_iff.mp read
  exact second value (first _ _ _ taken) _ _ _ rest

theorem yields_skip (reader : Reader α) {next : Reader β} {after : β → Prop} (rest : Yields next after) :
    Yields (reader >>= fun _ => next) after :=
  (yields_any reader).bind fun _ _ => rest

theorem Yields.orElse (one : Yields reader fits) (two : Yields other fits) : Yields (reader <|> other) fits := by
  intro text found rest read
  change (reader text <|> other text) = _ at read
  cases first : reader text with
  | none =>
    rw [first] at read
    exact two _ _ _ read
  | some taken =>
    rw [first] at read
    cases read
    exact one _ _ _ first

theorem Yields.optional (yields : Yields item fits) :
    Yields (Reader.optional item) fun found => ∀ value ∈ found, fits value := by
  intro text found rest read
  unfold Reader.optional at read
  cases taken : item text with
  | none =>
    rw [taken] at read
    cases read
    exact fun _ absent => nomatch absent
  | some one =>
    rw [taken] at read
    cases read
    intro value present
    cases present
    exact yields _ _ _ taken

theorem Yields.repeated (yields : Yields item fits) (times : Nat) :
    Yields (Reader.repeated item times) fun found => ∀ value ∈ found, fits value := by
  induction times with
  | zero => exact yields_pure (List.forall_mem_nil _)
  | succ times ih =>
    refine yields.optional.bind fun first fit => ?_
    cases first with
    | none => exact yields_pure (List.forall_mem_nil _)
    | some first =>
      refine ih.bind fun rest others => ?_
      exact yields_pure (List.forall_mem_cons.mpr ⟨fit first rfl, others⟩)

-- Nothing read where a list could have stood is the empty list.
theorem forall_getD {found : Option (List α)} (each : ∀ items ∈ found, ∀ item ∈ items, fits item) :
    ∀ item ∈ found.getD [], fits item := by
  cases found with
  | none => exact List.forall_mem_nil _
  | some items => exact each items rfl

theorem Yields.many (yields : Yields item fits) :
    Yields (Reader.many item) fun found => ∀ value ∈ found, fits value := by
  intro text
  exact yields.repeated text.length text

theorem Yields.separated (yields : Yields item fits) (separator : Reader Unit) :
    Yields (Reader.separated item separator) fun found => ∀ value ∈ found, fits value := by
  refine yields.bind fun first fit => ?_
  refine (yields_skip separator yields).many.bind fun rest others => ?_
  exact yields_pure (List.forall_mem_cons.mpr ⟨fit, others⟩)

end TestbedWatchdog.Toml.Reader
