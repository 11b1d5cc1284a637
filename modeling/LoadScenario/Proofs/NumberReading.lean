import LoadScenario.Json.Token

/-!
# Where a number ends

A number has no closing mark. It is over where the next character cannot go on with it, so whoever
reads a number that stands in front of other text has to know what that text begins with. In a
document it begins with a comma, a closing bracket or white space, and `number?_append` says that
the number is then read as if nothing came behind it.

The parts of a number are optional, and each could take characters from the text behind. The lemmas
go through the parts in the order in which they are read.
-/

namespace LoadScenario.Json

/-- The text does not begin with anything that could belong to a number in front of it. -/
def Delimits (cs : List Char) : Prop :=
  ∀ c ∈ cs.head?, c.isDigit = false ∧ c ≠ '.' ∧ c ≠ 'e' ∧ c ≠ 'E'

theorem delimits_nil : Delimits [] := nofun

variable {cs rest ds n r : List Char}

/-! ## Digits -/

theorem takeWhile_isDigit_append (hrest : Delimits rest) (cs : List Char) :
    (cs ++ rest).takeWhile Char.isDigit = cs.takeWhile Char.isDigit := by
  have hnone : rest.takeWhile Char.isDigit = [] := by
    cases rest with
    | nil => rfl
    | cons c rest => simp [hrest c rfl]
  induction cs with
  | nil => exact hnone
  | cons c cs ih => simp only [List.cons_append, List.takeWhile_cons, ih]

theorem dropWhile_isDigit_append (hrest : Delimits rest) (cs : List Char) :
    (cs ++ rest).dropWhile Char.isDigit = cs.dropWhile Char.isDigit ++ rest := by
  have hall : rest.dropWhile Char.isDigit = rest := by
    cases rest with
    | nil => rfl
    | cons c rest => simp [hrest c rfl]
  induction cs with
  | nil => exact hall
  | cons c cs ih =>
      simp only [List.cons_append, List.dropWhile_cons, ih]
      split <;> rfl

theorem digits?_append (hrest : Delimits rest) (h : digits? cs = some (ds, r)) :
    digits? (cs ++ rest) = some (ds, r ++ rest) := by
  rw [digits?] at h ⊢
  rw [takeWhile_isDigit_append hrest, dropWhile_isDigit_append hrest]
  split at h
  · cases h
  · obtain ⟨rfl, rfl⟩ := Prod.mk.inj (Option.some.inj h)
    rfl

/-! ## The parts of a number -/

theorem wholePart?_of_ne {c : Char} (hc : c ≠ '0') (cs : List Char) :
    wholePart? (c :: cs) = digits? (c :: cs) := by
  rw [wholePart?]
  rintro _ h
  exact absurd (List.cons.inj h).1 hc

theorem wholePart?_append (hrest : Delimits rest) (h : wholePart? cs = some (ds, r)) :
    wholePart? (cs ++ rest) = some (ds, r ++ rest) := by
  cases cs with
  | nil => cases h
  | cons c cs =>
      by_cases hc : c = '0'
      · subst hc
        obtain ⟨rfl, rfl⟩ := Prod.mk.inj (Option.some.inj h)
        rfl
      · rw [wholePart?_of_ne hc] at h
        rw [List.cons_append, wholePart?_of_ne hc]
        exact digits?_append hrest h

theorem fraction?_of_ne {c : Char} (hc : c ≠ '.') (cs : List Char) :
    fraction? (c :: cs) = some ([], c :: cs) := by
  rw [fraction?]
  rintro _ h
  exact absurd (List.cons.inj h).1 hc

theorem fraction?_append (hrest : Delimits rest) (h : fraction? cs = some (ds, r)) :
    fraction? (cs ++ rest) = some (ds, r ++ rest) := by
  cases cs with
  | nil =>
      obtain ⟨rfl, rfl⟩ := Prod.mk.inj (Option.some.inj h)
      cases rest with
      | nil => rfl
      | cons c rest => exact fraction?_of_ne (hrest c rfl).2.1 rest
  | cons c cs =>
      by_cases hc : c = '.'
      · subst hc
        obtain ⟨⟨ds', r'⟩, hdigits, heq⟩ := Option.map_eq_some_iff.mp h
        obtain ⟨rfl, rfl⟩ := Prod.mk.inj heq
        rw [List.cons_append, fraction?, digits?_append hrest hdigits]
        rfl
      · rw [fraction?_of_ne hc] at h
        obtain ⟨rfl, rfl⟩ := Prod.mk.inj (Option.some.inj h)
        exact fraction?_of_ne hc _

theorem exponentSign_append (hcs : cs ≠ []) (rest : List Char) :
    exponentSign (cs ++ rest) = ((exponentSign cs).1, (exponentSign cs).2 ++ rest) := by
  cases cs with
  | nil => exact absurd rfl hcs
  | cons c cs =>
      rw [List.cons_append, exponentSign.eq_def, exponentSign.eq_def]
      split <;> split <;> simp_all

theorem exponent?_of_e {e : Char} (he : e = 'e' ∨ e = 'E') (cs : List Char) :
    exponent? (e :: cs) =
      (digits? (exponentSign cs).2).map fun p => (e :: ((exponentSign cs).1 ++ p.1), p.2) := by
  rw [exponent?, if_pos he]

theorem exponent?_of_ne {c : Char} (hc : ¬ (c = 'e' ∨ c = 'E')) (cs : List Char) :
    exponent? (c :: cs) = some ([], c :: cs) := by
  rw [exponent?, if_neg hc]

theorem exponent?_append (hrest : Delimits rest) (h : exponent? cs = some (ds, r)) :
    exponent? (cs ++ rest) = some (ds, r ++ rest) := by
  cases cs with
  | nil =>
      obtain ⟨rfl, rfl⟩ := Prod.mk.inj (Option.some.inj h)
      cases rest with
      | nil => rfl
      | cons c rest => exact exponent?_of_ne (not_or.mpr (hrest c rfl).2.2) rest
  | cons e cs =>
      by_cases he : e = 'e' ∨ e = 'E'
      · rw [exponent?_of_e he] at h
        obtain ⟨⟨ds', r'⟩, hdigits, heq⟩ := Option.map_eq_some_iff.mp h
        obtain ⟨rfl, rfl⟩ := Prod.mk.inj heq
        have hcs : cs ≠ [] := by
          rintro rfl
          cases hdigits
        rw [List.cons_append, exponent?_of_e he, exponentSign_append hcs,
          digits?_append hrest hdigits]
        rfl
      · rw [exponent?_of_ne he] at h
        obtain ⟨rfl, rfl⟩ := Prod.mk.inj (Option.some.inj h)
        exact exponent?_of_ne he _

/-! ## The whole number -/

theorem unsignedNumber?_append (hrest : Delimits rest) (h : unsignedNumber? cs = some (n, r)) :
    unsignedNumber? (cs ++ rest) = some (n, r ++ rest) := by
  simp only [unsignedNumber?, bind, Option.bind_eq_some_iff, pure, Prod.exists] at h
  obtain ⟨whole, cs₁, hwhole, fraction, cs₂, hfraction, exponent, cs₃, hexponent, heq⟩ := h
  obtain ⟨rfl, rfl⟩ := Prod.mk.inj (Option.some.inj heq)
  simp only [unsignedNumber?, bind, wholePart?_append hrest hwhole, Option.bind_some,
    fraction?_append hrest hfraction, exponent?_append hrest hexponent]
  rfl

theorem number?_of_ne {c : Char} (hc : c ≠ '-') (cs : List Char) :
    number? (c :: cs) = unsignedNumber? (c :: cs) := by
  rw [number?]
  rintro _ h
  exact absurd (List.cons.inj h).1 hc

/-- What comes behind a number makes no difference to it. -/
theorem number?_append (hrest : Delimits rest) (h : number? cs = some (n, r)) :
    number? (cs ++ rest) = some (n, r ++ rest) := by
  cases cs with
  | nil => cases h
  | cons c cs =>
      by_cases hc : c = '-'
      · subst hc
        obtain ⟨⟨n', r'⟩, hnumber, heq⟩ := Option.map_eq_some_iff.mp h
        obtain ⟨rfl, rfl⟩ := Prod.mk.inj heq
        rw [List.cons_append, number?, unsignedNumber?_append hrest hnumber]
        rfl
      · rw [number?_of_ne hc] at h
        rw [List.cons_append, number?_of_ne hc]
        exact unsignedNumber?_append hrest h

/-- A number starts with its sign or with a digit. -/
theorem head_of_number? (h : number? cs = some (n, r)) :
    ∃ c cs', cs = c :: cs' ∧ (c = '-' ∨ c.isDigit) := by
  cases cs with
  | nil => cases h
  | cons c cs =>
      refine ⟨c, cs, rfl, ?_⟩
      by_cases hsign : c = '-'
      · exact .inl hsign
      · cases hdigit : c.isDigit with
        | true => exact .inr rfl
        | false =>
            have hzero : c ≠ '0' := by
              rintro rfl
              cases hdigit
            have hnone : wholePart? (c :: cs) = none := by
              rw [wholePart?_of_ne hzero, digits?, List.takeWhile_cons, hdigit]
              rfl
            rw [number?_of_ne hsign, unsignedNumber?, hnone] at h
            cases h

end LoadScenario.Json
