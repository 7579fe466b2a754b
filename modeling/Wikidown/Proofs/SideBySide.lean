import Mathlib.Tactic.SplitIfs
import Wikidown.Batch.Execution
import Wikidown.Proofs.Activities

/-!
# Activities side by side

Two sessions are compared that differ only in what has been reported, in what is going to be reported,
and in the output, which is longer in the second one (`Session.Lags`). Side by side in such sessions, two
activities end alike (`Run.Tracks`): both give results, or both fail in the same way. All activities of
reading, converting and writing go the same way in both (`Run.Same`), and so does the making of jobs;
reports make no difference (`Run.Tracks.emit_bind`).
-/

namespace Wikidown

namespace Session

/-- Two sessions differ at most in their reports and in the output, of which the second has more. -/
def Lags (more : String) (s t : Session) : Prop :=
  ∃ events threshold, t = { s with output := s.output ++ more, events, threshold }

variable {more : String} {s t : Session}

lemma Lags.output_eq (h : Lags more s t) : t.output = s.output ++ more := by
  obtain ⟨_, _, rfl⟩ := h
  rfl

lemma Lags.files_eq (h : Lags more s t) : t.files = s.files := by
  obtain ⟨_, _, rfl⟩ := h
  rfl

lemma Lags.current_eq (h : Lags more s t) : t.current = s.current := by
  obtain ⟨_, _, rfl⟩ := h
  rfl

lemma Lags.complaints_eq (h : Lags more s t) : t.complaints = s.complaints := by
  obtain ⟨_, _, rfl⟩ := h
  rfl

lemma Lags.environment_eq (h : Lags more s t) : t.environment = s.environment := by
  obtain ⟨_, _, rfl⟩ := h
  rfl

lemma lags_refl (s : Session) : Lags "" s s :=
  ⟨s.events, s.threshold, by rw [String.append_empty]⟩

/-- The threshold of reports makes no difference. -/
lemma Lags.of_threshold (h : Lags more s t) (n : Nat) : Lags more s { t with threshold := n } := by
  obtain ⟨events, _, rfl⟩ := h
  exact ⟨events, n, rfl⟩

lemma Lags.symm (h : Lags "" s t) : Lags "" t s := by
  obtain ⟨_, _, rfl⟩ := h
  exact ⟨s.events, s.threshold, by simp only [String.append_empty]⟩

end Session

namespace Run

variable {α β γ δ : Type}

/-- Side by side, two activities give results that are related, and the second prints something more
than the first; or both fail in the same way. -/
def Tracks (x : Run α) (y : Run β) (R : α → β → String → Prop) : Prop :=
  ∀ more s t, Session.Lags more s t →
    (∃ a b new s' t', x.Gives s a s' ∧ y.Gives t b t' ∧ R a b new ∧ Session.Lags (more ++ new) s' t') ∨
    ∃ e new s' t', x.Fails s e s' ∧ y.Fails t e t' ∧ Session.Lags (more ++ new) s' t'

/-- An activity goes the same way in both sessions. -/
def Same (x : Run α) : Prop :=
  Tracks x x fun a b new => a = b ∧ new = ""

variable {x : Run α} {y : Run β} {f : α → Run γ} {g : β → Run δ} {R : α → β → String → Prop}
variable {R' : γ → δ → String → Prop} {a : α} {b : β} {e : Failure}

/-! ## Steps -/

lemma Tracks.pure (h : R a b "") : Tracks (pure a) (pure b) R := by
  intro more s t hlags
  refine .inl ⟨a, b, "", s, t, gives_pure_iff.2 ⟨rfl, rfl⟩, gives_pure_iff.2 ⟨rfl, rfl⟩, h, ?_⟩
  rwa [String.append_empty]

lemma Tracks.throw : Tracks (throw e : Run α) (throw e : Run β) R := by
  intro more s t hlags
  refine .inr ⟨e, "", s, t, fails_throw_iff.2 ⟨rfl, rfl⟩, fails_throw_iff.2 ⟨rfl, rfl⟩, ?_⟩
  rwa [String.append_empty]

lemma Tracks.bind (hx : Tracks x y R)
    (hf : ∀ a b new, R a b new → Tracks (f a) (g b) fun c d new' => R' c d (new ++ new')) :
    Tracks (x >>= f) (y >>= g) R' := by
  intro more s t hlags
  rcases hx more s t hlags with
    ⟨a, b, new, s', t', ha, hb, hR, hlags'⟩ | ⟨e, new, s', t', hs, ht, hlags'⟩
  · rcases hf a b new hR (more ++ new) s' t' hlags' with
      ⟨c, d, new', s'', t'', hc, hd, hR', hlags''⟩ | ⟨e, new', s'', t'', hs, ht, hlags''⟩
    all_goals rw [String.append_assoc] at hlags''
    · exact .inl ⟨c, d, new ++ new', s'', t'', gives_bind_iff.2 ⟨a, s', ha, hc⟩,
        gives_bind_iff.2 ⟨b, t', hb, hd⟩, hR', hlags''⟩
    · exact .inr ⟨e, new ++ new', s'', t'', fails_bind_iff.2 (.inr ⟨a, s', ha, hs⟩),
        fails_bind_iff.2 (.inr ⟨b, t', hb, ht⟩), hlags''⟩
  · exact .inr ⟨e, new, s', t', fails_bind_iff.2 (.inl hs), fails_bind_iff.2 (.inl ht), hlags'⟩

/-- What comes behind an activity that goes the same way in both sessions may differ. -/
lemma Same.bind_tracks {f : α → Run γ} {g : α → Run δ} (hx : Same x)
    (hf : ∀ a, Tracks (f a) (g a) R') : Tracks (x >>= f) (x >>= g) R' := by
  refine Tracks.bind hx ?_
  rintro a _ _ ⟨rfl, rfl⟩
  simpa using hf a

lemma Same.bind {f : α → Run γ} (hx : Same x) (hf : ∀ a, Same (f a)) : Same (x >>= f) :=
  hx.bind_tracks hf

/-- An activity that looks at the session goes the same way if it does not see the difference. -/
lemma same_get_bind {f : Session → Run γ} (hf : ∀ more s t, Session.Lags more s t → f t = f s)
    (hsame : ∀ s, Same (f s)) : Same ((get : Run Session) >>= f) := by
  intro more s t hlags
  have hget (s : Session) : (get : Run Session).Gives s s s := gives_get_iff.2 ⟨rfl, rfl⟩
  have hlook := hf more s t hlags
  rcases hsame s more s t hlags with
    ⟨a, b, new, s', t', ha, hb, hR, hlags'⟩ | ⟨e, new, s', t', hs, ht, hlags'⟩
  · exact .inl ⟨a, b, new, s', t', gives_bind_iff.2 ⟨s, s, hget s, ha⟩,
      gives_bind_iff.2 ⟨t, t, hget t, hlook ▸ hb⟩, hR, hlags'⟩
  · exact .inr ⟨e, new, s', t', fails_bind_iff.2 (.inr ⟨s, s, hget s, hs⟩),
      fails_bind_iff.2 (.inr ⟨t, t, hget t, hlook ▸ ht⟩), hlags'⟩

lemma same_modify {g : Session → Session}
    (hg : ∀ more s t, Session.Lags more s t → Session.Lags more (g s) (g t)) :
    Same (modify g : Run Unit) := by
  intro more s t hlags
  refine .inl ⟨(), (), "", g s, g t, gives_modify g s, gives_modify g t, ⟨rfl, rfl⟩, ?_⟩
  rw [String.append_empty]
  exact hg more s t hlags

lemma Same.pure {a : α} : Same (pure a : Run α) :=
  Tracks.pure ⟨rfl, rfl⟩

lemma same_ofExcept (r : Except Failure α) : Same (ofExcept r) := by
  cases r with
  | ok a => exact Same.pure
  | error e => exact Tracks.throw

lemma Same.ite {c : Prop} [Decidable c] {x y : Run α} (hx : Same x) (hy : Same y) :
    Same (if c then x else y) := by
  split_ifs
  · exact hx
  · exact hy

lemma same_guard {c : Prop} [Decidable c] {h : γ → Run α} {x : Run α} (hx : Same x) :
    Same (if c then (throw e : Run γ) >>= h else x) := by
  split_ifs
  · exact Tracks.bind (R := fun _ _ _ => False) Tracks.throw fun _ _ _ hno => hno.elim
  · exact hx

lemma same_foldlM {h : β → δ → Run β} {ds : List δ} {b : β} (hh : ∀ b d, Same (h b d)) :
    Same (ds.foldlM h b) := by
  induction ds generalizing b with
  | nil => exact Same.pure
  | cons d ds ih => exact (hh b d).bind fun b => ih

lemma same_mapM {h : δ → Run β} {ds : List δ} (hh : ∀ d, Same (h d)) : Same (ds.mapM h) := by
  induction ds with
  | nil =>
    rw [List.mapM_nil]
    exact Same.pure
  | cons d ds ih =>
    rw [List.mapM_cons]
    exact (hh d).bind fun _ => ih.bind fun _ => Same.pure

/-! ## What one activity tells of the other -/

section Ends

variable {s s' t : Session} {more : String}

/-- The second activity gives a result if the first one does. -/
lemma Tracks.gives (h : Tracks x y R) (hlags : Session.Lags more s t) (hx : x.Gives s a s') :
    ∃ b new t', y.Gives t b t' ∧ R a b new ∧ Session.Lags (more ++ new) s' t' := by
  rcases h more s t hlags with ⟨a, b, new, s'', t', ha, hb, hR, hlags'⟩ | ⟨e, _, s'', _, hs, -, -⟩
  · obtain ⟨rfl, rfl⟩ := hx.unique ha
    exact ⟨b, new, t', hb, hR, hlags'⟩
  · exact absurd hs hx.not_fails

/-- It fails if the first one does. -/
lemma Tracks.fails (h : Tracks x y R) (hlags : Session.Lags more s t) (hx : x.Fails s e s') :
    ∃ new t', y.Fails t e t' ∧ Session.Lags (more ++ new) s' t' := by
  rcases h more s t hlags with ⟨_, _, _, s'', _, ha, -, -, -⟩ | ⟨e, new, s'', t', hs, ht, hlags'⟩
  · exact absurd hx ha.not_fails
  · obtain ⟨rfl, rfl⟩ := hx.unique hs
    exact ⟨new, t', ht, hlags'⟩

/-- What goes the same way in both sessions gives the same result. -/
lemma Same.gives (hx : Same x) (hlags : Session.Lags more s t) (h : x.Gives s a s') :
    ∃ t', x.Gives t a t' ∧ Session.Lags more s' t' := by
  obtain ⟨_, _, t', ht, ⟨rfl, rfl⟩, hlags'⟩ := Tracks.gives hx hlags h
  rw [String.append_empty] at hlags'
  exact ⟨t', ht, hlags'⟩

end Ends

/-! ## Reports and printing -/

section Reports

variable {event : Event} {line : String}

/-- What the first activity reports makes no difference. -/
lemma Tracks.emit_bind {f : Unit → Run α} (h : Tracks (f ()) y R) :
    Tracks (emit event >>= f) y R := by
  intro more s t ⟨events, threshold, ht⟩
  obtain ⟨s', hemit, hlags⟩ : ∃ s', (emit event).Gives s () s' ∧ Session.Lags more s' t := by
    refine ⟨_, gives_modify _ s, events, threshold, ?_⟩
    rw [ht]
    split <;> rfl
  rcases h more s' t hlags with
    ⟨a, b, new, u, t', ha, hb, hR, hlags'⟩ | ⟨e, new, u, t', hu, ht', hlags'⟩
  · exact .inl ⟨a, b, new, u, t', gives_bind_iff.2 ⟨(), s', hemit, ha⟩, hb, hR, hlags'⟩
  · exact .inr ⟨e, new, u, t', fails_bind_iff.2 (.inr ⟨(), s', hemit, hu⟩), ht', hlags'⟩

/-- The second activity prints a line. -/
lemma tracks_printLine {R : α → Unit → String → Prop} (h : R a () (line ++ "\n")) :
    Tracks (pure a) (printLine line) R := by
  intro more s t ⟨events, threshold, ht⟩
  refine .inl ⟨a, (), line ++ "\n", s, _, gives_pure_iff.2 ⟨rfl, rfl⟩, gives_modify _ t, h, ?_⟩
  exact ⟨events, threshold, by rw [ht]; simp only [String.append_assoc]⟩

end Reports

/-! ## Reading and writing -/

section Steps

variable {p : Path} {name source charset file : String} {c : Config} {o : Options} {u : CodeText}

lemma same_emit {event : Event} : Same (emit event) := by
  refine same_modify fun more s t ⟨events, threshold, ht⟩ => ?_
  subst ht
  split_ifs
  all_goals exact ⟨_, _, rfl⟩

lemma same_request {r : Request} : Same (request r) :=
  same_modify fun _ _ _ ⟨events, threshold, ht⟩ => ⟨events, threshold, ht ▸ rfl⟩

lemma same_home : Same (home name) := by
  refine same_guard (same_get_bind (fun more s t ⟨events, threshold, ht⟩ => ht ▸ rfl) fun s => ?_)
  dsimp only
  split
  · exact Tracks.throw
  · exact Same.ite Tracks.throw Same.pure

lemma same_expandHome : Same (expandHome p) := by
  rw [expandHome]
  split
  · exact (same_home.bind fun _ => Same.pure).ite Same.pure
  · exact Same.pure

lemma same_resolve : Same (resolve p) := by
  refine same_guard (same_get_bind (fun more s t ⟨events, threshold, ht⟩ => ht ▸ rfl) fun s => ?_)
  split
  · exact Same.pure
  · exact Tracks.throw

lemma same_readLocal : Same (readLocal p) := by
  refine same_guard (same_get_bind (fun more s t ⟨events, threshold, ht⟩ => ht ▸ rfl) fun s => ?_)
  split
  · exact Same.pure
  · exact Tracks.throw
  · exact Tracks.throw
  · exact Same.ite Tracks.throw Tracks.throw

lemma same_readRemote {a : Address} : Same (readRemote c a) := by
  refine same_get_bind (fun more s t ⟨events, threshold, ht⟩ => ht ▸ rfl) fun s => ?_
  split
  · exact Tracks.throw
  · refine same_request.bind fun _ => same_request.bind fun _ => same_request.bind fun _ => ?_
    split
    · exact Same.pure
    · exact Tracks.throw

lemma same_sourceBytes : Same (sourceBytes c source) :=
  ((same_ofExcept _).bind fun _ => same_readRemote).ite
    (same_expandHome.bind fun _ => same_readLocal)

lemma same_sourceMarkdown : Same (sourceMarkdown c charset o source) := by
  have htext : Same (sourceText c charset source) :=
    same_sourceBytes.bind fun _ => (same_ofExcept _).bind fun _ => same_emit.bind fun _ => Same.pure
  have hconversion (u : CodeText) : Same (performConversion o u) :=
    (same_foldlM fun _ _ => same_emit.bind fun _ => Same.pure).bind fun _ =>
      same_emit.bind fun _ => Same.pure
  exact htext.bind hconversion

lemma same_makeDirectories : Same (makeDirectories p) := by
  refine same_guard fun more s t ⟨events, threshold, ht⟩ => ?_
  subst ht
  refine .inl ⟨_, _, "", _, _, gives_modifyGet _ s, gives_modifyGet _ _, ⟨rfl, rfl⟩, ?_⟩
  exact ⟨events, threshold, by rw [String.append_empty]⟩

lemma same_writeBytes {content : Bytes} : Same (writeBytes p content) := by
  refine same_guard fun more s t hlags => ?_
  have hget (s : Session) : (get : Run Session).Gives s s s := gives_get_iff.2 ⟨rfl, rfl⟩
  have hwrite : t.files.writeFile t.current p content = s.files.writeFile s.current p content := by
    rw [hlags.files_eq, hlags.current_eq]
  cases h : s.files.writeFile s.current p content with
  | ok files =>
    rw [h] at hwrite
    refine .inl ⟨(), (), "", { s with files := files }, { t with files := files },
      gives_bind_iff.2 ⟨s, s, hget s, ?_⟩, gives_bind_iff.2 ⟨t, t, hget t, ?_⟩, ⟨rfl, rfl⟩, ?_⟩
    · simp only [h]
      exact gives_set _ _
    · simp only [hwrite]
      exact gives_set _ _
    · obtain ⟨events, threshold, rfl⟩ := hlags
      exact ⟨events, threshold, by rw [String.append_empty]⟩
  | error o =>
    rw [h] at hwrite
    refine .inr ⟨.write p ⟨o, p⟩, "", s, t, fails_bind_iff.2 (.inr ⟨s, s, hget s, ?_⟩),
      fails_bind_iff.2 (.inr ⟨t, t, hget t, ?_⟩), by rwa [String.append_empty]⟩
    · simp only [h, fails_throw_iff, and_self]
    · simp only [hwrite, fails_throw_iff, and_self]

lemma same_writeText : Same (writeText p u) := by
  rw [writeText]
  split
  · exact same_writeBytes
  · exact same_writeBytes.bind fun _ => Tracks.throw

lemma same_writeFile {markdown : CodeText} : Same (writeFile markdown p) := by
  refine same_makeDirectories.bind fun r => ?_
  cases r with
  | error e => exact Tracks.throw
  | ok => exact same_writeText.bind fun _ => same_emit

end Steps

end Run

/-! ## Batches -/

namespace Batch

open Run

variable {spec : Spec} {c : Config} {o : Options} {base p : Path} {dir : Option Path} {entry : Entry}
variable {written file : String} {job : Job}

lemma same_readSpec : Same (readSpec p) := by
  refine same_get_bind (fun more s t ⟨events, threshold, ht⟩ => ht ▸ rfl) fun s => ?_
  split
  · exact Same.pure
  · exact Tracks.throw
  · exact Tracks.throw
  · exact Same.ite Tracks.throw Tracks.throw

lemma same_loadSpec : Same (loadSpec file) :=
  same_expandHome.bind fun _ => same_resolve.bind fun _ =>
    same_get_bind (fun _ _ _ ⟨_, _, ht⟩ => ht ▸ rfl) fun _ =>
      same_readSpec.bind fun _ => (same_ofExcept _).bind fun _ => same_ofExcept _

lemma same_localPath : Same (localPath base written) :=
  same_expandHome.bind fun _ => Same.pure

lemma same_outputDir : Same (outputDir spec) := by
  rw [outputDir]
  split
  · exact Same.pure
  · exact same_localPath.bind fun _ => Same.pure

lemma same_outputOf : Same (outputOf base dir entry) := by
  unfold outputOf
  split
  · exact same_localPath.bind fun _ => Same.pure
  · exact Same.pure
  · exact (same_ofExcept _).bind fun _ => Same.pure

lemma same_jobOf : Same (jobOf spec c dir entry) := by
  have hsource : Same (sourceOf spec.base entry.input) :=
    Same.pure.ite (same_localPath.bind fun _ => Same.pure)
  exact hsource.bind fun _ => same_outputOf.bind fun _ => Same.pure

lemma same_reserve {reserved : List (Path × String)} : Same (reserve reserved job) := by
  rw [reserve]
  split
  · exact Same.pure
  · refine same_resolve.bind fun r => ?_
    split
    · exact Tracks.throw
    · exact Same.pure

lemma same_jobs : Same (jobs spec c) := by
  have hfrom (dir : Option Path) (entries : List Entry) (reserved : List (Path × String)) :
      Same (jobsFrom spec c dir entries reserved) := by
    induction entries generalizing reserved with
    | nil => exact Same.pure
    | cons entry entries ih =>
      exact same_jobOf.bind fun _ => same_reserve.bind fun _ => (ih _).bind fun _ => Same.pure
  exact same_outputDir.bind fun _ => hfrom _ _ _

end Batch

end Wikidown
