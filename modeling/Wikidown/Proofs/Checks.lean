import Mathlib.Data.List.Forall2
import Mathlib.Tactic.Lemma
import Wikidown.Batch.Fields

/-!
# Checks

Checks that are made one after the other pass if each one passes, and fail as the first one that fails
(`mapM_eq_ok_iff`, `mapM_eq_error_iff`). In which ways a check can fail at all is said by `FailsIn`,
which holds for checks that are made of checks for which it holds.
-/

namespace Wikidown

/-! ## Checks one after the other -/

section Checks

variable {ε α β : Type} {x : Except ε α} {f : α → Except ε β} {b : β} {e : ε} {xs : List α}
variable {ys : List β}

lemma Except.bind_eq_ok_iff : x >>= f = .ok b ↔ ∃ a, x = .ok a ∧ f a = .ok b := by
  cases x <;> simp [bind, Except.bind]

lemma Except.bind_eq_error_iff :
    x >>= f = .error e ↔ x = .error e ∨ ∃ a, x = .ok a ∧ f a = .error e := by
  cases x <;> simp [bind, Except.bind]

lemma Except.pure_eq_ok_iff {a a' : α} : (pure a : Except ε α) = .ok a' ↔ a = a' := by
  simp [pure, Except.pure]

lemma Except.pure_ne_error {a : α} : (pure a : Except ε α) ≠ .error e := by
  simp [pure, Except.pure]

lemma Except.mapError_eq_ok_iff {ε' : Type} {g : ε → ε'} {a : α} :
    x.mapError g = .ok a ↔ x = .ok a := by
  cases x <;> simp [Except.mapError]

/-- Checks of all members of a list are passed if each one is. -/
lemma mapM_eq_ok_iff : xs.mapM f = .ok ys ↔ List.Forall₂ (fun x y => f x = .ok y) xs ys := by
  induction xs generalizing ys with
  | nil => simp [pure, Except.pure, eq_comm]
  | cons x xs ih =>
    simp only [List.mapM_cons, Except.bind_eq_ok_iff, ih]
    constructor
    · rintro ⟨y, hx, ys', hxs, heq⟩
      obtain rfl := Except.ok.inj heq
      exact .cons hx hxs
    · rintro (_ | ⟨hx, hxs⟩)
      exact ⟨_, hx, _, hxs, rfl⟩

/-- If some checks of a list are not all passed, there is a first one that fails. -/
lemma mapM_eq_error_iff : xs.mapM f = .error e ↔ ∃ front x back, xs = front ++ x :: back ∧
    (∀ y ∈ front, ∃ b, f y = .ok b) ∧ f x = .error e := by
  induction xs with
  | nil => simp [pure, Except.pure]
  | cons x xs ih =>
    simp only [List.mapM_cons, Except.bind_eq_error_iff, Except.pure_ne_error, and_false, exists_false,
      or_false, ih]
    constructor
    · rintro (hx | ⟨y, hx, front, z, back, rfl, hfront, hz⟩)
      · exact ⟨[], x, xs, rfl, by simp, hx⟩
      · exact ⟨x :: front, z, back, rfl, List.forall_mem_cons.2 ⟨⟨y, hx⟩, hfront⟩, hz⟩
    · rintro ⟨_ | ⟨y, front⟩, z, back, heq, hfront, hz⟩
      · obtain ⟨rfl, rfl⟩ := List.cons.inj heq
        exact .inl hz
      · obtain ⟨rfl, rfl⟩ := List.cons.inj heq
        obtain ⟨⟨b, hx⟩, hfront⟩ := List.forall_mem_cons.1 hfront
        exact .inr ⟨b, hx, front, z, back, rfl, hfront, hz⟩

/-- A member of a list is related to a member of the other one. -/
lemma exists_mem_of_forall₂ {R : α → β → Prop} (h : List.Forall₂ R xs ys) (hb : b ∈ ys) :
    ∃ a ∈ xs, R a b := by
  induction h with
  | nil => cases hb
  | cons hR _ ih =>
    rcases List.mem_cons.1 hb with rfl | hb
    · exact ⟨_, List.mem_cons_self, hR⟩
    · obtain ⟨a, ha, hR⟩ := ih hb
      exact ⟨a, List.mem_cons_of_mem _ ha, hR⟩

/-- To number the members of a list changes nothing for what they are related to. -/
lemma forall₂_zipIdx_iff {R : α → β → Prop} {n : Nat} :
    List.Forall₂ (fun p y => R p.1 y) (xs.zipIdx n) ys ↔ List.Forall₂ R xs ys := by
  rw [← List.forall₂_map_left_iff, List.zipIdx_map_fst]

end Checks

/-! ## How checks fail -/

/-- A check fails only in the ways that are allowed. -/
def FailsIn {α : Type} (E : Failure → Prop) (x : Except Failure α) : Prop :=
  ∀ e, x = .error e → E e

/-- A failure is about the specification of a batch. -/
def Failure.InSpec (e : Failure) : Prop :=
  ∃ x, e = .spec x

/-- A failure is about the specification of a batch, or it is a fault. -/
def Failure.InSpecOrFault (e : Failure) : Prop :=
  e.InSpec ∨ ∃ f, e = .fault f

namespace FailsIn

variable {α β : Type} {E E' : Failure → Prop} {x : Except Failure α} {g : α → Except Failure β}
variable {xs : List α}

lemma mono (h : FailsIn E x) (hE : ∀ e, E e → E' e) : FailsIn E' x :=
  fun e he => hE e (h e he)

lemma pure {a : α} : FailsIn E (pure a) :=
  fun _ h => absurd h Except.pure_ne_error

lemma bind (hx : FailsIn E x) (hg : ∀ a, FailsIn E (g a)) : FailsIn E (x >>= g) := by
  intro e h
  rcases Except.bind_eq_error_iff.1 h with h | ⟨a, -, h⟩
  · exact hx e h
  · exact hg a e h

lemma mapM (hg : ∀ a, FailsIn E (g a)) : FailsIn E (xs.mapM g) := by
  intro e h
  obtain ⟨_, a, _, -, -, ha⟩ := mapM_eq_error_iff.1 h
  exact hg a e ha

lemma refuse {x : SpecError} : FailsIn Failure.InSpec (Batch.refuse x : Except Failure α) :=
  fun _ h => ⟨x, (Except.error.inj h).symm⟩

/-- What fails about the specification only meets no fault. -/
lemma ne_fault (h : FailsIn Failure.InSpec x) {f : Fault} : x ≠ .error (.fault f) := by
  intro hf
  obtain ⟨y, hy⟩ := h _ hf
  simp at hy

lemma orFault (h : FailsIn Failure.InSpec x) : FailsIn Failure.InSpecOrFault x :=
  h.mono fun _ => .inl

end FailsIn

end Wikidown
