import Mathlib.Tactic.Lemma
import Mathlib.Data.List.Basic
import Wikidown.Markup.Rule

/-!
# Runs of rules

A conversion is a run of all rules. What one step does to a text, to two texts side by side or to
the stages of a document, a run does by induction on the rules.
-/

namespace Wikidown

/-- What the given rules make of a text, one after the other. -/
def Rule.applyAll (o : Options) (rs : List Rule) (s : Text) : Text :=
  rs.foldl (fun t r => r.apply o t) s

namespace Rule

/-- The rules that a conversion applies before the given one. -/
def before (r : Rule) : List Rule :=
  all.takeWhile (· != r)

variable {o : Options} {rs : List Rule} {s t : Text}

@[simp] lemma applyAll_nil : applyAll o [] s = s :=
  rfl

@[simp] lemma applyAll_cons {r : Rule} : applyAll o (r :: rs) s = applyAll o rs (r.apply o s) :=
  rfl

/-- What each of the rules keeps of a text, a run keeps. -/
lemma applyAll_induction {P : Text → Prop} (step : ∀ r ∈ rs, ∀ t, P t → P (r.apply o t))
    (h : P s) : P (applyAll o rs s) := by
  induction rs generalizing s with
  | nil => exact h
  | cons r rs ih =>
    exact ih (fun r' hr => step r' (List.mem_cons_of_mem r hr)) (step r List.mem_cons_self s h)

/-- A relation between texts that each of the rules keeps, a run keeps. -/
lemma applyAll_rel {R : Text → Text → Prop}
    (step : ∀ r ∈ rs, ∀ s t, R s t → R (r.apply o s) (r.apply o t)) (h : R s t) :
    R (applyAll o rs s) (applyAll o rs t) := by
  induction rs generalizing s t with
  | nil => exact h
  | cons r rs ih =>
    exact ih (fun r' hr => step r' (List.mem_cons_of_mem r hr)) (step r List.mem_cons_self s t h)

/-- The place of a rule in a conversion. -/
def place (r : Rule) : Nat :=
  all.idxOf r

lemma place_inj {r r' : Rule} : r.place = r'.place ↔ r = r' :=
  List.idxOf_inj (mem_all r)

lemma place_eq_length {before after : List Rule} {r : Rule} (h : all = before ++ r :: after) :
    r.place = before.length := by
  have hnodup : all.Nodup := by decide
  have hr : r ∉ before := by
    rw [h] at hnodup
    exact fun hr => (List.nodup_append.1 hnodup).2.2 r hr r List.mem_cons_self rfl
  rw [place, h, List.idxOf_append_of_notMem hr, List.idxOf_cons_self, Nat.add_zero]

/-- If each rule leads from the stage at its place to the next, the rules from one place on lead to
the last stage. -/
lemma applyAll_stages {D : Nat → Text} (step : ∀ r : Rule, r.apply o (D r.place) = D (r.place + 1))
    {before : List Rule} (h : all = before ++ rs) :
    applyAll o rs (D before.length) = D all.length := by
  induction rs generalizing before with
  | nil => rw [h, List.append_nil, applyAll_nil]
  | cons r rs ih =>
    -- the rules done so far say at which place the next one stands
    rw [applyAll_cons, ← place_eq_length h, step r, place_eq_length h]
    have hnext : all = (before ++ [r]) ++ rs := by rw [h, List.append_cons]
    simpa using ih hnext

end Rule

/-- A conversion leads through all stages if each rule leads from one to the next. -/
lemma convert_stages {o : Options} {D : Nat → Text}
    (step : ∀ r : Rule, r.apply o (D r.place) = D (r.place + 1)) :
    convert o (D 0) = D Rule.all.length :=
  Rule.applyAll_stages step (List.nil_append _).symm

end Wikidown
