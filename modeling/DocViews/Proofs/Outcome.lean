import Mathlib.Data.List.Forall2

/-!
# Outcomes of steps that may fail

A step either yields a value or ends the compilation. What follows takes a successful sequence of
steps apart into the steps that it was made of, and sets two sequences of steps side by side.
-/

namespace DocViews

theorem bind_eq_ok {x : Except ε α} {f : α → Except ε β} {b : β} :
    (x >>= f) = .ok b ↔ ∃ a, x = .ok a ∧ f a = .ok b := by
  cases x with
  | error e => simp [bind, Except.bind]
  | ok a => simp [bind, Except.bind]

/-- The first step that fails is the one that is reported. -/
theorem bind_eq_error {x : Except ε α} {f : α → Except ε β} {e : ε} :
    (x >>= f) = .error e ↔ x = .error e ∨ ∃ a, x = .ok a ∧ f a = .error e := by
  cases x with
  | error e' => simp [bind, Except.bind]
  | ok a => simp [bind, Except.bind]

theorem pure_eq_ok {a b : α} : (pure a : Except ε α) = .ok b ↔ a = b := by
  simp [pure, Except.pure]

theorem pure_ne_error {a : α} {e : ε} : (pure a : Except ε α) ≠ .error e := by
  simp [pure, Except.pure]

theorem toOption_eq_some {x : Except ε α} {a : α} : x.toOption = some a ↔ x = .ok a := by
  cases x <;> simp [Except.toOption]

theorem toOption_isSome_iff {x : Except ε α} : x.toOption.isSome = true ↔ ∃ a, x = .ok a := by
  simp only [Option.isSome_iff_exists, toOption_eq_some]

theorem mapError_eq_ok {x : Except ε α} {f : ε → δ} {a : α} : x.mapError f = .ok a ↔ x = .ok a := by
  cases x <;> simp [Except.mapError]

/-- A guard lets the rest go on if nothing speaks against it. -/
theorem guard_eq_ok {p : Prop} [Decidable p] {e : ε} {x : Except ε α} {b : α} :
    (if p then .error e else x) = .ok b ↔ ¬p ∧ x = .ok b := by
  split <;> simp_all

/-- A traversal succeeds with the list of what the step yields at each element. -/
theorem mapM_eq_ok {f : α → Except ε β} {l : List α} {r : List β} :
    l.mapM f = .ok r ↔ List.Forall₂ (fun a b => f a = .ok b) l r := by
  induction l generalizing r with
  | nil =>
    rw [List.mapM_nil, pure_eq_ok, List.forall₂_nil_left_iff]
    exact eq_comm
  | cons a l ih =>
    rw [List.mapM_cons, bind_eq_ok, List.forall₂_cons_left_iff]
    constructor
    · rintro ⟨b, hb, h⟩
      obtain ⟨r', hr', h⟩ := bind_eq_ok.1 h
      exact ⟨b, r', hb, ih.1 hr', (pure_eq_ok.1 h).symm⟩
    · rintro ⟨b, r', hb, hr', rfl⟩
      exact ⟨b, hb, bind_eq_ok.2 ⟨r', ih.2 hr', rfl⟩⟩

/-- Where lists are related element by element, an element with what is before and after it has a
    counterpart with what is before and after that one. -/
theorem forall₂_append_cons {R : α → β → Prop} {l : List α} {bs cs : List β} {b : β}
    (h : List.Forall₂ R l (bs ++ b :: cs)) :
    ∃ before a after, l = before ++ a :: after ∧ List.Forall₂ R before bs ∧ R a b ∧
      List.Forall₂ R after cs := by
  induction bs generalizing l with
  | nil =>
    obtain ⟨a, after, hab, hafter, rfl⟩ := List.forall₂_cons_right_iff.1 h
    exact ⟨[], a, after, rfl, .nil, hab, hafter⟩
  | cons b' bs ih =>
    obtain ⟨a', l', hab', hrest, rfl⟩ := List.forall₂_cons_right_iff.1 h
    obtain ⟨before, a, after, rfl, hbefore, hab, hafter⟩ := ih hrest
    exact ⟨a' :: before, a, after, rfl, .cons hab' hbefore, hab, hafter⟩

/-- What a traversal yields it yields at some element. -/
theorem mem_of_mapM_eq_ok {f : α → Except ε β} {l : List α} {r : List β} {b : β}
    (h : l.mapM f = .ok r) (hb : b ∈ r) : ∃ a ∈ l, f a = .ok b := by
  obtain ⟨bs, cs, rfl⟩ := List.append_of_mem hb
  obtain ⟨before, a, after, rfl, _, hab, _⟩ := forall₂_append_cons (mapM_eq_ok.1 h)
  exact ⟨a, List.mem_append_right before List.mem_cons_self, hab⟩

/-- What the step keeps at each element, the traversal keeps along the list. -/
theorem map_eq_of_mapM_eq_ok {f : α → Except ε β} {l : List α} {r : List β} {p : α → γ} {q : β → γ}
    (h : l.mapM f = .ok r) (hf : ∀ a b, f a = .ok b → q b = p a) : r.map q = l.map p := by
  have hs := mapM_eq_ok.1 h
  clear h
  induction hs with
  | nil => rfl
  | cons hab _ ih => rw [List.map_cons, List.map_cons, hf _ _ hab, ih]

/-! ## Two outcomes -/

/-- Two outcomes agree if both are the same failure, or both are values that are related. -/
inductive Agree (R : α → β → Prop) : Except ε α → Except ε β → Prop
  | ok {a : α} {b : β} : R a b → Agree R (.ok a) (.ok b)
  | error (e : ε) : Agree R (.error e) (.error e)

namespace Agree

variable {R : α → β → Prop} {S : γ → δ → Prop} {x : Except ε α} {y : Except ε β}

theorem refl (x : Except ε α) : Agree Eq x x := by
  cases x with
  | ok a => exact .ok rfl
  | error e => exact .error e

/-- Outcomes that agree in all there is are the same. -/
theorem eq {x y : Except ε α} (h : Agree Eq x y) : x = y := by
  cases h with
  | ok hab => rw [hab]
  | error e => rfl

/-- What else is known of the values may be used to relate them more closely. -/
theorem mono {R' : α → β → Prop} (h : Agree R x y)
    (hR : ∀ a b, x = .ok a → y = .ok b → R a b → R' a b) : Agree R' x y := by
  cases h with
  | ok hab => exact .ok (hR _ _ rfl rfl hab)
  | error e => exact .error e

/-- A value on one side has its counterpart on the other. -/
theorem exists_ok_right {a : α} (h : Agree R x y) (ha : x = .ok a) : ∃ b, y = .ok b ∧ R a b := by
  cases h with
  | ok hab =>
    cases ha
    exact ⟨_, rfl, hab⟩
  | error e => cases ha

theorem exists_ok_left {b : β} (h : Agree R x y) (hb : y = .ok b) : ∃ a, x = .ok a ∧ R a b := by
  cases h with
  | ok hab =>
    cases hb
    exact ⟨_, rfl, hab⟩
  | error e => cases hb

/-- Steps that agree, one after another, agree as a whole. -/
theorem bind {f : α → Except ε γ} {g : β → Except ε δ} (h : Agree R x y)
    (hfg : ∀ a b, R a b → Agree S (f a) (g b)) : Agree S (x >>= f) (y >>= g) := by
  cases h with
  | ok hab => exact hfg _ _ hab
  | error e => exact .error e

/-- Traversals of a list agree in what their steps agree in. -/
theorem mapM {f g : α → Except ε β} {k : β → γ} (h : ∀ a, Agree (fun b c => k b = k c) (f a) (g a))
    (l : List α) : Agree (fun r s => r.map k = s.map k) (l.mapM f) (l.mapM g) := by
  induction l with
  | nil => exact .ok rfl
  | cons a l ih =>
    rw [List.mapM_cons, List.mapM_cons]
    apply (h a).bind
    intro b c hbc
    apply ih.bind
    intro r s hrs
    apply Agree.ok
    rw [List.map_cons, List.map_cons, hbc, hrs]

end Agree

end DocViews
