import Mathlib.Data.List.Forall2
import Mathlib.Tactic.Lemma
import Wikidown.Session

/-!
# What activities do

An activity gives a result and leads to another session (`Run.Gives`), or it fails and leaves the
session as far as it was changed (`Run.Fails`); never both. A sequence of activities gives a result
if each of its parts does, and it fails where the first of its parts fails. So a run over a list
fails at one member of it, after all members in front of it have been dealt with
(`Run.fails_mapM_iff`).
-/

namespace Wikidown

namespace Run

variable {α β : Type}

/-- In a session an activity gives a result, and leads to another session. -/
def Gives (x : Run α) (s : Session) (a : α) (s' : Session) : Prop :=
  x.run s = (.ok a, s')

/-- In a session an activity fails, and leaves another session behind. -/
def Fails (x : Run α) (s : Session) (e : Failure) (s' : Session) : Prop :=
  x.run s = (.error e, s')

variable {x : Run α} {f : α → Run β} {g : Session → Session} {s s' t u : Session} {a a' : α} {b : β}
variable {e e' : Failure}

lemma gives_or_fails (x : Run α) (s : Session) :
    (∃ a s', x.Gives s a s') ∨ ∃ e s', x.Fails s e s' := by
  rcases h : x.run s with ⟨a | a, s'⟩
  · exact .inr ⟨a, s', h⟩
  · exact .inl ⟨a, s', h⟩

lemma Gives.unique (h : x.Gives s a s') (h' : x.Gives s a' t) : a = a' ∧ s' = t := by
  rw [Gives, h, Prod.mk.injEq, Except.ok.injEq] at h'
  exact h'

lemma Fails.unique (h : x.Fails s e s') (h' : x.Fails s e' t) : e = e' ∧ s' = t := by
  rw [Fails, h, Prod.mk.injEq, Except.error.injEq] at h'
  exact h'

lemma Gives.not_fails (h : x.Gives s a s') : ¬ x.Fails s e t := by
  intro h'
  rw [Fails, h, Prod.mk.injEq] at h'
  exact absurd h'.1 (by simp)

/-! ## Single steps -/

@[simp] lemma gives_pure_iff : (pure a : Run α).Gives s a' s' ↔ a = a' ∧ s = s' := by
  change (Except.ok a, s) = (Except.ok a', s') ↔ _
  simp

@[simp] lemma not_fails_pure : ¬ (pure a : Run α).Fails s e s' := by
  change ¬ (Except.ok a, s) = (Except.error e, s')
  simp

@[simp] lemma not_gives_throw : ¬ (throw e : Run α).Gives s a s' := by
  change ¬ (Except.error e, s) = (Except.ok a, s')
  simp

@[simp] lemma fails_throw_iff : (throw e : Run α).Fails s e' s' ↔ e = e' ∧ s = s' := by
  change (Except.error e, s) = (Except.error e', s') ↔ _
  simp

@[simp] lemma gives_ofExcept_iff {r : Except Failure α} :
    (ofExcept r).Gives s a s' ↔ r = .ok a ∧ s = s' := by
  cases r <;> simp [ofExcept]

@[simp] lemma fails_ofExcept_iff {r : Except Failure α} :
    (ofExcept r).Fails s e s' ↔ r = .error e ∧ s = s' := by
  cases r <;> simp [ofExcept]

@[simp] lemma gives_get_iff : (get : Run Session).Gives s t s' ↔ s = t ∧ s = s' := by
  change (Except.ok s, s) = (Except.ok t, s') ↔ _
  simp

@[simp] lemma not_fails_get : ¬ (get : Run Session).Fails s e s' := by
  change ¬ (Except.ok s, s) = (Except.error e, s')
  simp

lemma gives_modify (g : Session → Session) (s : Session) : (modify g : Run Unit).Gives s () (g s) :=
  rfl

lemma gives_set (s t : Session) : (set t : Run PUnit).Gives s () t :=
  rfl

lemma gives_modifyGet (g : Session → α × Session) (s : Session) :
    (modifyGet g : Run α).Gives s (g s).1 (g s).2 :=
  rfl

/-! ## One after the other -/

lemma run_bind_of_gives (h : x.Gives s a t) : (x >>= f).run s = (f a).run t := by
  change (match x.run s with | (r, t) => (ExceptT.bindCont f r) t) = _
  rw [h]
  rfl

lemma run_bind_of_fails (h : x.Fails s e t) : (x >>= f).run s = (.error e, t) := by
  change (match x.run s with | (r, t) => (ExceptT.bindCont f r) t) = _
  rw [h]
  rfl

lemma gives_bind_iff : (x >>= f).Gives s b u ↔ ∃ a t, x.Gives s a t ∧ (f a).Gives t b u := by
  constructor
  · intro h
    rcases gives_or_fails x s with ⟨a, t, hx⟩ | ⟨e, t, hx⟩
    · exact ⟨a, t, hx, (run_bind_of_gives hx).symm.trans h⟩
    · have heq : (Except.error e, t) = (Except.ok b, u) := (run_bind_of_fails hx).symm.trans h
      exact absurd (Prod.mk.inj heq).1 (by simp)
  · rintro ⟨a, t, hx, hf⟩
    exact (run_bind_of_gives hx).trans hf

lemma fails_bind_iff :
    (x >>= f).Fails s e u ↔ x.Fails s e u ∨ ∃ a t, x.Gives s a t ∧ (f a).Fails t e u := by
  constructor
  · intro h
    rcases gives_or_fails x s with ⟨a, t, hx⟩ | ⟨e', t, hx⟩
    · exact .inr ⟨a, t, hx, (run_bind_of_gives hx).symm.trans h⟩
    · have heq : (Except.error e', t) = (Except.error e, u) := (run_bind_of_fails hx).symm.trans h
      rw [Prod.mk.injEq, Except.error.injEq] at heq
      obtain ⟨rfl, rfl⟩ := heq
      exact .inl hx
  · rintro (hx | ⟨a, t, hx, hf⟩)
    · exact run_bind_of_fails hx
    · exact (run_bind_of_gives hx).trans hf

lemma gives_get_bind_iff {f : Session → Run β} :
    ((get : Run Session) >>= f).Gives s b u ↔ (f s).Gives s b u := by
  simp [gives_bind_iff]

lemma fails_get_bind_iff {f : Session → Run β} :
    ((get : Run Session) >>= f).Fails s e u ↔ (f s).Fails s e u := by
  simp [fails_bind_iff]

/-- What comes behind a check is done if the check is passed. -/
lemma gives_guard_iff {γ : Type} {c : Prop} [Decidable c] {h : γ → Run α} :
    (if c then (throw e : Run γ) >>= h else x).Gives s a s' ↔ ¬ c ∧ x.Gives s a s' := by
  split_ifs with hc <;> simp [hc]

lemma fails_guard_iff {γ : Type} {c : Prop} [Decidable c] {h : γ → Run α} :
    (if c then (throw e : Run γ) >>= h else x).Fails s e' s' ↔
      c ∧ e = e' ∧ s = s' ∨ ¬ c ∧ x.Fails s e' s' := by
  split_ifs with hc <;> simp [hc]

section List

variable {γ : Type} {h : γ → Run β} {c : γ} {cs ds : List γ} {bs : List β}

@[simp] lemma gives_mapM_nil_iff : (([] : List γ).mapM h).Gives s bs t ↔ [] = bs ∧ s = t := by
  rw [List.mapM_nil, gives_pure_iff]

lemma gives_mapM_cons_iff : ((c :: cs).mapM h).Gives s bs u ↔
    ∃ b bs' t, (h c).Gives s b t ∧ (cs.mapM h).Gives t bs' u ∧ b :: bs' = bs := by
  simp only [List.mapM_cons, gives_bind_iff, gives_pure_iff]
  constructor
  · rintro ⟨b, t, hc, bs', u', hcs, heq, rfl⟩
    exact ⟨b, bs', t, hc, hcs, heq⟩
  · rintro ⟨b, bs', t, hc, hcs, heq⟩
    exact ⟨b, t, hc, bs', u, hcs, heq, rfl⟩

lemma fails_mapM_cons_iff : ((c :: cs).mapM h).Fails s e u ↔
    (h c).Fails s e u ∨ ∃ b t, (h c).Gives s b t ∧ (cs.mapM h).Fails t e u := by
  simp only [List.mapM_cons, fails_bind_iff, not_fails_pure, and_false, exists_false, or_false]

lemma gives_mapM_append_iff : ((cs ++ ds).mapM h).Gives s bs u ↔ ∃ bs₁ bs₂ t,
    (cs.mapM h).Gives s bs₁ t ∧ (ds.mapM h).Gives t bs₂ u ∧ bs₁ ++ bs₂ = bs := by
  simp only [List.mapM_append, gives_bind_iff, gives_pure_iff]
  constructor
  · rintro ⟨bs₁, t, hcs, bs₂, u', hds, heq, rfl⟩
    exact ⟨bs₁, bs₂, t, hcs, hds, heq⟩
  · rintro ⟨bs₁, bs₂, t, hcs, hds, heq⟩
    exact ⟨bs₁, t, hcs, bs₂, u, hds, heq, rfl⟩

/-- A run over a list fails at one of its members, after those in front of it. -/
lemma fails_mapM_iff : (cs.mapM h).Fails s e u ↔ ∃ k c bs t, cs[k]? = some c ∧
    ((cs.take k).mapM h).Gives s bs t ∧ (h c).Fails t e u := by
  induction cs generalizing s with
  | nil => simp [List.mapM_nil]
  | cons c cs ih =>
    rw [fails_mapM_cons_iff]
    constructor
    · rintro (hc | ⟨b, t, hc, hcs⟩)
      · exact ⟨0, c, [], s, rfl, by simp, hc⟩
      · obtain ⟨k, d, bs, t', hk, hfront, hd⟩ := ih.1 hcs
        exact ⟨k + 1, d, b :: bs, t', hk, gives_mapM_cons_iff.2 ⟨b, bs, t, hc, hfront, rfl⟩, hd⟩
    · rintro ⟨_ | k, d, bs, t, hk, hfront, hd⟩
      · obtain rfl := Option.some.inj hk
        obtain ⟨-, rfl⟩ := gives_mapM_nil_iff.1 hfront
        exact .inl hd
      · obtain ⟨b, bs', t', hc, hfront, -⟩ := gives_mapM_cons_iff.1 hfront
        exact .inr ⟨b, t', hc, ih.2 ⟨k, d, bs', t, hk, hfront, hd⟩⟩

/-- The members in front of the one at which a run fails do not fail. -/
lemma le_of_fails_mapM {j k : Nat} (hk : cs[k]? = some c) (hfront : ((cs.take k).mapM h).Gives s bs t)
    (hc : (h c).Fails t e u) {bs' : List β} {t' : Session}
    (hj : ((cs.take j).mapM h).Gives s bs' t') : j ≤ k := by
  by_contra hkj
  refine hj.not_fails (fails_mapM_iff.2 ⟨k, c, bs, t, ?_, ?_, hc⟩)
  · rwa [List.getElem?_take_of_lt (by omega)]
  · rwa [List.take_take, Nat.min_eq_left (by omega)]

end List

/-! ## What holds of all steps -/

/-- Whatever an activity leads to, a view of the session stays as it is, and it fails only in the
ways that are allowed. -/
structure Keeps {γ : Type} (v : Session → γ) (E : Failure → Prop) (x : Run α) : Prop where
  of_gives : ∀ {s a t}, x.Gives s a t → v t = v s
  of_fails : ∀ {s e t}, x.Fails s e t → v t = v s ∧ E e

section Keeps

variable {γ : Type} {v : Session → γ} {E E' : Failure → Prop}

lemma Keeps.mono (h : x.Keeps v E) (hE : ∀ e, E e → E' e) : x.Keeps v E' :=
  ⟨h.of_gives, fun hx => (h.of_fails hx).imp_right (hE _)⟩

lemma Keeps.comp {δ : Type} (h : x.Keeps v E) (w : γ → δ) : x.Keeps (fun s => w (v s)) E :=
  ⟨fun hx => congrArg w (h.of_gives hx), fun hx => (h.of_fails hx).imp_left (congrArg w)⟩

lemma keeps_pure : (pure a : Run α).Keeps v E :=
  ⟨fun h => (gives_pure_iff.1 h).2 ▸ rfl, fun h => absurd h not_fails_pure⟩

lemma keeps_throw (h : E e) : (throw e : Run α).Keeps v E := by
  refine ⟨fun h => absurd h not_gives_throw, fun h' => ?_⟩
  obtain ⟨rfl, rfl⟩ := fails_throw_iff.1 h'
  exact ⟨rfl, h⟩

lemma keeps_ofExcept {r : Except Failure α} (h : ∀ e, r = .error e → E e) :
    (ofExcept r).Keeps v E := by
  cases r with
  | ok a => exact keeps_pure
  | error e => exact keeps_throw (h e rfl)

lemma keeps_get : (get : Run Session).Keeps v E :=
  ⟨fun h => (gives_get_iff.1 h).2 ▸ rfl, fun h => absurd h not_fails_get⟩

lemma keeps_modify (h : ∀ s, v (g s) = v s) : (modify g : Run Unit).Keeps v E := by
  refine ⟨fun {s a t} hx => ?_, fun hx => absurd hx (gives_modify g _).not_fails⟩
  rw [← ((gives_modify g s).unique hx).2, h]

lemma Keeps.bind (hx : x.Keeps v E) (hf : ∀ a, (f a).Keeps v E) :
    (x >>= f).Keeps v E := by
  constructor
  · intro s b u h
    obtain ⟨a, t, ha, hb⟩ := gives_bind_iff.1 h
    exact ((hf a).of_gives hb).trans (hx.of_gives ha)
  · intro s e u h
    rcases fails_bind_iff.1 h with ha | ⟨a, t, ha, hb⟩
    · exact hx.of_fails ha
    · exact ((hf a).of_fails hb).imp_left fun h => h.trans (hx.of_gives ha)

lemma Keeps.ite {c : Prop} [Decidable c] {y : Run α} (hx : x.Keeps v E) (hy : y.Keeps v E) :
    (if c then x else y).Keeps v E := by
  split_ifs
  · exact hx
  · exact hy

lemma keeps_guard {δ : Type} {c : Prop} [Decidable c] {h : δ → Run α} (he : E e)
    (hx : x.Keeps v E) : (if c then (throw e : Run δ) >>= h else x).Keeps v E := by
  constructor
  · intro s a t hgives
    exact hx.of_gives (gives_guard_iff.1 hgives).2
  · intro s e' t hfails
    rcases fails_guard_iff.1 hfails with ⟨-, rfl, rfl⟩ | ⟨-, hfails⟩
    · exact ⟨rfl, he⟩
    · exact hx.of_fails hfails

lemma keeps_foldlM {δ : Type} {h : β → δ → Run β} {ds : List δ} {b : β}
    (hh : ∀ b d, (h b d).Keeps v E) : (ds.foldlM h b).Keeps v E := by
  induction ds generalizing b with
  | nil => exact keeps_pure
  | cons d ds ih => exact (hh b d).bind fun b => ih

lemma keeps_mapM {δ : Type} {h : δ → Run β} {ds : List δ} (hh : ∀ d ∈ ds, (h d).Keeps v E) :
    (ds.mapM h).Keeps v E := by
  induction ds with
  | nil =>
    rw [List.mapM_nil]
    exact keeps_pure
  | cons d ds ih =>
    obtain ⟨hd, hds⟩ := List.forall_mem_cons.1 hh
    rw [List.mapM_cons]
    exact hd.bind fun _ => (ih hds).bind fun _ => keeps_pure

end Keeps

/-- An activity does not see a change of the session: it does the same before and after it. -/
structure Ignores (g : Session → Session) (x : Run α) : Prop where
  gives : ∀ {s a t}, x.Gives s a t → x.Gives (g s) a (g t)
  fails : ∀ {s e t}, x.Fails s e t → x.Fails (g s) e (g t)

lemma Ignores.result_eq (h : x.Ignores g) (s : Session) : (x.run (g s)).1 = (x.run s).1 := by
  rcases gives_or_fails x s with ⟨a, t, hx⟩ | ⟨e, t, hx⟩
  · rw [hx, h.gives hx]
  · rw [hx, h.fails hx]

lemma ignores_pure : (pure a : Run α).Ignores g := by
  refine ⟨fun h => ?_, fun h => absurd h not_fails_pure⟩
  obtain ⟨rfl, rfl⟩ := gives_pure_iff.1 h
  exact gives_pure_iff.2 ⟨rfl, rfl⟩

lemma ignores_throw : (throw e : Run α).Ignores g := by
  refine ⟨fun h => absurd h not_gives_throw, fun h => ?_⟩
  obtain ⟨rfl, rfl⟩ := fails_throw_iff.1 h
  exact fails_throw_iff.2 ⟨rfl, rfl⟩

lemma ignores_modifyGet {h : Session → α × Session} (hg : ∀ s, h (g s) = ((h s).1, g (h s).2)) :
    (modifyGet h : Run α).Ignores g := by
  refine ⟨fun {s a t} hx => ?_, fun hx => absurd hx (gives_modifyGet h _).not_fails⟩
  obtain ⟨rfl, rfl⟩ := (gives_modifyGet h s).unique hx
  have hmoved := gives_modifyGet h (g s)
  rwa [hg] at hmoved

lemma ignores_modify {h : Session → Session} (hg : ∀ s, h (g s) = g (h s)) :
    (modify h : Run Unit).Ignores g :=
  ignores_modifyGet fun s => congrArg (Prod.mk PUnit.unit) (hg s)

lemma ignores_ofExcept (r : Except Failure α) : (ofExcept r).Ignores g := by
  cases r with
  | ok a => exact ignores_pure
  | error e => exact ignores_throw

/-- What comes behind an activity has to ignore the change only for the results that there are. -/
lemma Ignores.bind_of_gives (hx : x.Ignores g)
    (hf : ∀ {s a t}, x.Gives s a t → (f a).Ignores g) : (x >>= f).Ignores g := by
  constructor
  · intro s b u h
    obtain ⟨a, t, ha, hb⟩ := gives_bind_iff.1 h
    exact gives_bind_iff.2 ⟨a, g t, hx.gives ha, (hf ha).gives hb⟩
  · intro s e u h
    rcases fails_bind_iff.1 h with ha | ⟨a, t, ha, hb⟩
    · exact fails_bind_iff.2 (.inl (hx.fails ha))
    · exact fails_bind_iff.2 (.inr ⟨a, g t, hx.gives ha, (hf ha).fails hb⟩)

lemma Ignores.bind (hx : x.Ignores g) (hf : ∀ a, (f a).Ignores g) : (x >>= f).Ignores g :=
  hx.bind_of_gives fun _ => hf _

lemma Ignores.ite {c : Prop} [Decidable c] {y : Run α} (hx : x.Ignores g) (hy : y.Ignores g) :
    (if c then x else y).Ignores g := by
  split_ifs
  · exact hx
  · exact hy

lemma ignores_guard {γ : Type} {c : Prop} [Decidable c] {h : γ → Run α} (hx : x.Ignores g) :
    (if c then (throw e : Run γ) >>= h else x).Ignores g := by
  constructor
  · intro s a t hgives
    rw [gives_guard_iff] at hgives ⊢
    exact hgives.imp_right hx.gives
  · intro s e' t hfails
    rw [fails_guard_iff] at hfails ⊢
    exact hfails.imp (fun ⟨hc, he, hs⟩ => ⟨hc, he, hs ▸ rfl⟩) (And.imp_right hx.fails)

/-- What looks at the session only for what the change leaves as it is does not see the change. -/
lemma ignores_get_bind {f : Session → Run β} (hg : ∀ s, f (g s) = f s) (hf : ∀ s, (f s).Ignores g) :
    ((get : Run Session) >>= f).Ignores g := by
  constructor
  · intro s b u h
    obtain ⟨t, t', ht, hb⟩ := gives_bind_iff.1 h
    obtain ⟨rfl, rfl⟩ := gives_get_iff.1 ht
    exact gives_bind_iff.2 ⟨g s, g s, gives_get_iff.2 ⟨rfl, rfl⟩, hg s ▸ (hf s).gives hb⟩
  · intro s e u h
    rcases fails_bind_iff.1 h with h | ⟨t, t', ht, hb⟩
    · exact absurd h not_fails_get
    · obtain ⟨rfl, rfl⟩ := gives_get_iff.1 ht
      exact fails_bind_iff.2 (.inr ⟨g s, g s, gives_get_iff.2 ⟨rfl, rfl⟩, hg s ▸ (hf s).fails hb⟩)

end Run

end Wikidown
