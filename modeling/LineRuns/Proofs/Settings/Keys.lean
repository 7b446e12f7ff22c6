import LineRuns.Settings

/-!
# Errors of settings, and unknown settings

Which errors break the reading of settings off, and which of several unknown settings is reported.
-/

namespace LineRuns.Settings

/-! ## Errors that break off

An error of the settings is reported by the commands, or it breaks the reading of settings off
(`BreaksOff`). An error that shows a value breaks off if the value cannot be put in words.
-/

open Document (Value)

/-! ### Results of steps -/

section

variable {ε α β : Type} {r : Except ε α}

theorem bind_eq_ok_iff {f : α → Except ε β} {b : β} :
    r >>= f = .ok b ↔ ∃ a, r = .ok a ∧ f a = .ok b := by
  cases r <;> simp [bind, Except.bind]

theorem exists_map_eq_ok_iff {f : α → β} : (∃ b, r.map f = .ok b) ↔ ∃ a, r = .ok a := by
  cases r <;> simp [Except.map]

theorem map_eq_error_iff {f : α → β} {e : ε} : r.map f = .error e ↔ r = .error e := by
  cases r <;> simp [Except.map]

end

/-! ### Breaking off -/

/-- Whether an error is one that the commands do not report, once it is seen whether what it shows
can be put in words. -/
def SettingsError.BreaksOff (e : SettingsError) : Prop :=
  (LoadError.settings e.checked).isReported = false

/-- An error that shows a value breaks off if the value cannot be put in words. Of all others, those
that are not about what a setting may be break off. -/
theorem SettingsError.breaksOff_iff (e : SettingsError) :
    e.BreaksOff ↔
      match e with
      | .unknownSetting v | .logLevel v | .language v => v.isDescribable = false
      | .jobs | .fontSize => False
      | .noOrder _ _ | .dateAndMoment | .someOffsets | .notHashable _ | .sizeTooLarge | .notPath _
      | .tooManyDigits => True := by
  unfold SettingsError.BreaksOff SettingsError.checked
  cases e with
  | unknownSetting v | logLevel v | language v =>
    cases hv : v.isDescribable <;> simp [LoadError.isReported, hv]
  | _ => simp [LoadError.isReported]

section

variable {α β : Type}

/-- Whether a result is an error that breaks off. -/
def BreaksOff (r : Except SettingsError α) : Prop :=
  ∃ e, r = .error e ∧ e.BreaksOff

@[simp]
theorem not_breaksOff_ok {a : α} : ¬BreaksOff (.ok a : Except SettingsError α) := by
  simp [BreaksOff]

@[simp]
theorem breaksOff_error_iff {e : SettingsError} :
    BreaksOff (.error e : Except SettingsError α) ↔ e.BreaksOff := by
  simp [BreaksOff]

theorem breaksOff_bind_iff {r : Except SettingsError α} {f : α → Except SettingsError β} :
    BreaksOff (r >>= f) ↔ BreaksOff r ∨ ∃ a, r = .ok a ∧ BreaksOff (f a) := by
  cases r with
  | ok a => simp [bind, Except.bind]
  | error e => simp [bind, Except.bind]

theorem breaksOff_map_iff {r : Except SettingsError α} {f : α → β} :
    BreaksOff (r.map f) ↔ BreaksOff r := by
  cases r <;> simp [Except.map]

end

/-! ## Unknown settings

Of several unknown settings the least is reported, for which they must have an order: keys of one
kind have one. Looking for unknown settings breaks off if there are some and they have no order
among themselves, or if the least of them cannot be put in words.
-/

open Document (Value)

/-! ### Keys that have an order -/

/-- The kinds of keys that have an order among themselves. Moments with an offset from universal
time have none with moments without. -/
inductive KeyKind
  | text
  | date
  | moment (hasOffset : Bool)
  | number
  deriving DecidableEq, Repr

/-- The kind of a key, if it has an order with any key. -/
def keyKind? : Value → Option KeyKind
  | .text _ => some .text
  | .date _ => some .date
  | .moment m => some (.moment m.offset.isSome)
  | .bool _ | .int _ | .double _ => some .number
  | .null | .list _ | .map _ => none

/-- Whether two keys have an order. -/
def HaveOrder (a b : Value) : Prop :=
  ∃ kind, keyKind? a = some kind ∧ keyKind? b = some kind

theorem HaveOrder.symm {a b : Value} (h : HaveOrder a b) : HaveOrder b a :=
  let ⟨kind, ha, hb⟩ := h
  ⟨kind, hb, ha⟩

theorem HaveOrder.trans {a b c : Value} (hab : HaveOrder a b) (hbc : HaveOrder b c) :
    HaveOrder a c := by
  obtain ⟨kind, ha, hb⟩ := hab
  obtain ⟨kind', hb', hc⟩ := hbc
  cases hb.symm.trans hb'
  exact ⟨kind, ha, hc⟩

theorem keyKind?_eq_number_iff {a : Value} :
    keyKind? a = some .number ↔ ∃ rank, a.rank? = some rank := by
  cases a with
  | double x =>
    simp only [keyKind?, Value.rank?, true_iff]
    split <;> exact ⟨_, rfl⟩
  | _ => simp [keyKind?, Value.rank?]

/-- Keys of one kind are compared; with all others the comparison breaks off. -/
theorem isBefore_outcome (a b : Value) :
    (HaveOrder a b ∧ ∃ r, isBefore a b = .ok r) ∨ (¬HaveOrder a b ∧ BreaksOff (isBefore a b)) := by
  unfold isBefore
  -- One case for each way of comparing keys, in their order there.
  split
  · exact .inl ⟨⟨.text, rfl, rfl⟩, _, rfl⟩
  · exact .inl ⟨⟨.date, rfl, rfl⟩, _, rfl⟩
  · next m n =>
    by_cases hoffset : m.offset.isSome = n.offset.isSome
    · exact .inl ⟨⟨.moment m.offset.isSome, rfl, by rw [hoffset]; rfl⟩, by simp [hoffset]⟩
    · refine .inr ⟨?_, by simp [hoffset, SettingsError.breaksOff_iff]⟩
      rintro ⟨kind, hm, hn⟩
      exact hoffset (by simpa [keyKind?] using hm.trans hn.symm)
  · exact .inr ⟨by simp [HaveOrder, keyKind?], by simp [SettingsError.breaksOff_iff]⟩
  · exact .inr ⟨by simp [HaveOrder, keyKind?], by simp [SettingsError.breaksOff_iff]⟩
  · next htext hdate hmoment _ _ =>
    split
    · next p q hp hq =>
      exact .inl ⟨⟨.number, keyKind?_eq_number_iff.mpr ⟨p, hp⟩,
        keyKind?_eq_number_iff.mpr ⟨q, hq⟩⟩, _, rfl⟩
    · next hrank =>
      -- Keys of one kind would be numbers, or would have been compared before.
      refine .inr ⟨?_, by simp [SettingsError.breaksOff_iff]⟩
      rintro ⟨kind, ha, hb⟩
      cases kind with
      | number =>
        obtain ⟨p, hp⟩ := keyKind?_eq_number_iff.mp ha
        obtain ⟨q, hq⟩ := keyKind?_eq_number_iff.mp hb
        exact hrank p q hp hq
      | _ => cases a <;> cases b <;> simp_all [keyKind?]

/-! ### The least key -/

/-- The least key is found as long as all keys have an order with the first one. -/
theorem leastKey_outcome (least : Value) (keys : List Value) :
    ((∀ key ∈ keys, HaveOrder key least) ∧ ∃ key, leastKey least keys = .ok key) ∨
      ((∃ key ∈ keys, ¬HaveOrder key least) ∧ BreaksOff (leastKey least keys)) := by
  -- The least so far may change, but only for a key that has an order with the same keys.
  induction keys generalizing least with
  | nil => exact .inl ⟨by simp, least, rfl⟩
  | cons key rest ih =>
    obtain ⟨horder, r, hr⟩ | ⟨hnone, hbreak⟩ := isBefore_outcome key least
    · have hnext : leastKey least (key :: rest) = leastKey (if r then key else least) rest := by
        rw [leastKey, hr]
        cases r <;> rfl
      have hsame (other : Value) :
          HaveOrder other (if r then key else least) ↔ HaveOrder other least := by
        cases r with
        | false => exact Iff.rfl
        | true => exact ⟨fun h => h.trans horder, fun h => h.trans horder.symm⟩
      rw [hnext]
      simpa [hsame, horder] using ih (if r then key else least)
    · refine .inr ⟨⟨key, List.mem_cons_self, hnone⟩, ?_⟩
      rw [leastKey, breaksOff_bind_iff]
      exact .inl hbreak

/-- The least of keys is one of them. -/
theorem leastKey_mem {least key : Value} {keys : List Value} (h : leastKey least keys = .ok key) :
    key ∈ least :: keys := by
  induction keys generalizing least with
  | nil =>
    cases h
    exact List.mem_cons_self
  | cons other rest ih =>
    rw [leastKey, bind_eq_ok_iff] at h
    obtain ⟨r, -, hrest⟩ := h
    cases r with
    | false =>
      obtain rfl | hmem := List.mem_cons.mp (ih hrest)
      · exact List.mem_cons_self
      · exact List.mem_cons_of_mem _ (List.mem_cons_of_mem _ hmem)
    | true => exact List.mem_cons_of_mem _ (ih hrest)

/-! ### Unknown settings -/

/-- The keys that are not names of settings. -/
def unknownKeys (entries : List (Value × Value)) : List Value :=
  (entries.map Prod.fst).filter fun key => !names.any fun name => key.sameKey (.text name)

/-- Whether the least of keys is not found, or cannot be put in words. -/
def LeastBreaks : List Value → Prop
  | [] => False
  | key :: rest =>
    (∃ other ∈ rest, ¬HaveOrder other key) ∨
      ∃ least, leastKey key rest = .ok least ∧ least.isDescribable = false

theorem checkNames_eq (entries : List (Value × Value)) :
    checkNames entries =
      match unknownKeys entries with
      | [] => .ok ()
      | key :: rest => leastKey key rest >>= fun least => .error (.unknownSetting least) :=
  rfl

/-- The names are in order if no key is unknown. Otherwise the check fails, and it breaks off if it
is the least of the unknown keys that makes it. -/
theorem checkNames_outcome (entries : List (Value × Value)) :
    ((∃ u, checkNames entries = .ok u) ↔ unknownKeys entries = []) ∧
      (BreaksOff (checkNames entries) ↔ LeastBreaks (unknownKeys entries)) := by
  rw [checkNames_eq]
  cases unknownKeys entries with
  | nil => simp [LeastBreaks]
  | cons key rest =>
    simp only [LeastBreaks, breaksOff_bind_iff, breaksOff_error_iff,
      SettingsError.breaksOff_iff, reduceCtorEq, iff_false]
    refine ⟨?_, ?_⟩
    · cases leastKey key rest <;> simp [bind, Except.bind]
    · obtain ⟨hall, least, hleast⟩ | ⟨hsome, hbreak⟩ := leastKey_outcome key rest
      · have hnone : ¬∃ other ∈ rest, ¬HaveOrder other key := by simpa using hall
        simp [hleast, hnone]
      · simp [hbreak, hsome]

end LineRuns.Settings
