import Wikidown.Batch.Execution
import Wikidown.Proofs.Jobs

/-!
# Results

A job that is performed reads its source, and writes its output and nothing else
(`Batch.gives_perform`); one that fails writes nothing, unless its Markdown has lone surrogates, in
which case its output is empty (`Batch.fails_perform`). So in a run of jobs
whose outputs lead to different locations, what a job writes is there at the end
(`Batch.delivered_of_mapM_perform`). If moreover no source is where an output is, each result is what
the job comes to when it is performed alone (`Batch.resultOf?`, `Batch.results_of_mapM_perform`).
-/

namespace Wikidown

namespace Batch

open Run

variable {spec : Spec} {c : Config} {o : Options} {s s' t u : Session} {job : Job} {js : List Job}
variable {r : Result} {rs : List Result} {e : Failure} {w : Set Location}

/-- The result that a job has if its source holds what it holds in a session. -/
def resultOf? (o : Options) (s : Session) (job : Job) : Option Result := do
  let content ← s.contentOf? job.source
  let text ← (decodeSource content job.charset job.source).toOption
  return ⟨job.source, job.output, text.convert o⟩

/-! ## One job -/

/-- What a job does behind the conversion. -/
lemma perform_eq : perform c o job = sourceMarkdown c job.charset o job.source >>= fun markdown =>
    job.output.elim (pure ()) (writeFile markdown) >>= fun _ =>
      emit (.jobCompleted job.source job.output) >>= fun _ =>
        pure ⟨job.source, job.output, markdown⟩ := by
  rw [perform]
  refine bind_congr fun markdown => ?_
  cases job.output <;> simp

/-- A job leaves the variables as they are, and does not fail about the specification. -/
lemma keeps_perform : (perform c o job).Keeps Session.environment fun e => ∀ x, e ≠ .spec x := by
  rw [perform_eq]
  have hread : (sourceMarkdown c job.charset o job.source).Keeps Session.environment
      fun e => ∀ x, e ≠ .spec x := (keeps_sourceMarkdown.comp Session.environment).mono fun _ he => he.1
  refine hread.bind fun markdown => Keeps.bind ?_ fun _ =>
    (keeps_emit.comp Session.environment).bind fun _ => keeps_pure
  cases job.output with
  | none => exact keeps_pure
  | some p => exact keeps_writeFile

/-- The Markdown that a source is converted to is that of the job's result. -/
lemma resultOf?_of_gives {markdown : CodeText}
    (h : (sourceMarkdown c job.charset o job.source).Gives s markdown t) :
    resultOf? o s job = some ⟨job.source, job.output, markdown⟩ := by
  obtain ⟨content, text, hcontent, hdecode, hmarkdown⟩ := gives_sourceMarkdown h
  simp [resultOf?, hcontent, hdecode, hmarkdown, Except.toOption]

/-- A job that fails has written nothing, unless its Markdown has lone surrogates: then its output is
empty. -/
lemma fails_perform (hs : s.WellFormed) (h : (perform c o job).Fails s e s') :
    s.Proceeds ∅ s' ∧ e.Ordinary ∨
      ∃ p r, job.output = some p ∧ resultOf? o s job = some r ∧ s.Emptied p r.markdown e s' := by
  rw [perform_eq] at h
  rcases fails_bind_iff.1 h with hread | ⟨markdown, t, hread, hafter⟩
  · obtain ⟨ht, he⟩ := keeps_sourceMarkdown.of_fails hread
    exact .inl ⟨.of_unreported ht, he⟩
  have ht : s.Proceeds ∅ t := .of_unreported (keeps_sourceMarkdown.of_gives hread)
  rcases fails_bind_iff.1 hafter with hwrite | ⟨_, t', -, hemit⟩
  · cases hp : job.output with
    | none => simp [hp] at hwrite
    | some p =>
      rw [hp] at hwrite
      rcases fails_writeFile (ht.wellFormed hs) hwrite with ⟨hs', he⟩ | hempty
      · exact .inl ⟨ht.trans hs', he⟩
      · have hproceeds := hempty.proceeds
        rw [ht.locationOf_eq] at hproceeds
        exact .inr ⟨p, _, rfl, resultOf?_of_gives hread, hempty.failure,
          (ht.mono (Set.empty_subset _)).trans hproceeds, hempty.look⟩
  · rcases fails_bind_iff.1 hemit with hemit | ⟨_, _, -, hpure⟩
    · exact absurd (keeps_emit (E := fun _ => False).of_fails hemit).2 id
    · exact absurd hpure not_fails_pure

/-- What a job that does not fail leads to. -/
structure Performed (o : Options) (s : Session) (job : Job) (r : Result) (s' : Session) : Prop where
  result : resultOf? o s job = some r
  proceeds : s.Proceeds {l | ∃ p, job.output = some p ∧ s.locationOf p = l} s'
  output : ∀ p, job.output = some p → s'.Stores p r.markdown

/-- A source that is read, and Markdown that is written, are what a job comes to. -/
lemma performed_of_gives {markdown : CodeText} {x : Unit} (hs : s.WellFormed)
    (hread : (sourceMarkdown c job.charset o job.source).Gives s markdown t)
    (hwrite : (job.output.elim (pure ()) (writeFile markdown)).Gives t x s') :
    Performed o s job ⟨job.source, job.output, markdown⟩ s' := by
  have ht : s.Proceeds ∅ t := .of_unreported (keeps_sourceMarkdown.of_gives hread)
  have hresult := resultOf?_of_gives hread
  cases hp : job.output with
  | none =>
    rw [hp] at hwrite
    obtain ⟨-, rfl⟩ := gives_pure_iff.1 hwrite
    exact ⟨hp ▸ hresult, ht.mono (Set.empty_subset _), by simp [hp]⟩
  | some p =>
    rw [hp] at hwrite
    obtain ⟨ht', hstores⟩ := gives_writeFile (ht.wellFormed hs) hwrite
    rw [ht.locationOf_eq] at ht'
    refine ⟨hp ▸ hresult, ((ht.mono (Set.empty_subset _)).trans ht').mono ?_, ?_⟩
    · rintro l rfl
      exact ⟨p, hp, rfl⟩
    · rintro q hq
      obtain rfl := Option.some.inj (hp.symm.trans hq)
      exact hstores

lemma gives_perform (hs : s.WellFormed) (h : (perform c o job).Gives s r s') :
    Performed o s job r s' := by
  rw [perform_eq] at h
  obtain ⟨markdown, t, hread, hafter⟩ := gives_bind_iff.1 h
  obtain ⟨_, t', hwrite, hbehind⟩ := gives_bind_iff.1 hafter
  obtain ⟨_, u, hemit, hpure⟩ := gives_bind_iff.1 hbehind
  obtain ⟨rfl, rfl⟩ := gives_pure_iff.1 hpure
  have hdone := performed_of_gives hs hread hwrite
  have hu : t'.Proceeds ∅ u := .of_unreported ((keeps_emit (E := fun _ => False)).of_gives hemit)
  exact ⟨hdone.result, hdone.proceeds.trans (hu.mono (Set.empty_subset _)),
    fun p hp => hu.stores (Set.notMem_empty _) (hdone.output p hp)⟩

/-! ## Sessions without reports -/

/-- In a session no event reaches the threshold. -/
def Quiet (s : Session) : Prop :=
  ∀ event : Event, event.level.number < s.threshold

/-- No event is graver than an information. -/
lemma quiet_of_lt (h : Level.info.number < s.threshold) : Quiet s := by
  intro event
  have hle : event.level.number ≤ Level.info.number := by
    cases event <;> simp [Event.level, Level.number]
  exact hle.trans_lt h

lemma gives_emit_of_quiet (h : Quiet s) (event : Event) : (emit event).Gives s () s := by
  have hemit := gives_modify (fun s : Session =>
    if s.threshold ≤ event.level.number then { s with events := s.events ++ [event] } else s) s
  rwa [if_neg (Nat.not_le.2 (h event))] at hemit

lemma gives_performConversion_of_quiet (h : Quiet s) (text : CodeText) :
    (performConversion o text).Gives s (text.convert o) s := by
  have hrun (rs : List Rule) (text : CodeText) :
      (rs.foldlM (Rule.perform o) text).Gives s
        (rs.foldl (fun t r => t.rewrite (r.apply o)) text) s := by
    induction rs generalizing text with
    | nil => exact gives_pure_iff.2 ⟨rfl, rfl⟩
    | cons r rs ih =>
      have hr : (Rule.perform o text r).Gives s (text.rewrite (r.apply o)) s :=
        gives_bind_iff.2 ⟨(), s, gives_emit_of_quiet h _, gives_pure_iff.2 ⟨rfl, rfl⟩⟩
      rw [List.foldlM_cons]
      exact gives_bind_iff.2 ⟨_, s, hr, ih _⟩
  exact gives_bind_iff.2 ⟨_, s, hrun _ _,
    gives_bind_iff.2 ⟨(), s, gives_emit_of_quiet h _, gives_pure_iff.2 ⟨rfl, rfl⟩⟩⟩

/-- A source that can be read and decoded has Markdown. -/
lemma gives_sourceMarkdown_of_quiet {source charset : String} {content : Bytes} {text : CodeText}
    (hs : Quiet s) (hread : (sourceBytes c source).Gives s content s)
    (hdecode : decodeSource content charset source = .ok text) :
    (sourceMarkdown c charset o source).Gives s (text.convert o) s := by
  have htext : (sourceText c charset source).Gives s text s :=
    gives_bind_iff.2 ⟨content, s, hread, gives_bind_iff.2 ⟨text, s, gives_ofExcept_iff.2 ⟨hdecode, rfl⟩,
      gives_bind_iff.2 ⟨(), s, gives_emit_of_quiet hs _, gives_pure_iff.2 ⟨rfl, rfl⟩⟩⟩⟩
  exact gives_bind_iff.2 ⟨text, s, htext, gives_performConversion_of_quiet hs text⟩

/-- A job with Markdown that can be written does not fail. -/
lemma gives_perform_of_quiet {markdown : CodeText} (ht : Quiet t)
    (hmarkdown : (sourceMarkdown c job.charset o job.source).Gives s markdown s)
    (hwrite : (job.output.elim (pure ()) (writeFile markdown)).Gives s () t) :
    (perform c o job).Gives s ⟨job.source, job.output, markdown⟩ t := by
  rw [perform_eq]
  exact gives_bind_iff.2 ⟨_, s, hmarkdown, gives_bind_iff.2 ⟨(), t, hwrite,
    gives_bind_iff.2 ⟨(), t, gives_emit_of_quiet ht _, gives_pure_iff.2 ⟨rfl, rfl⟩⟩⟩⟩

/-! ## A run of jobs -/

lemma locationOf_mem_locations {p : Path} (h : job.output = some p) :
    s.locationOf p ∈ locations s (job :: js) := by
  simp [locations_cons_some h]

lemma mem_locations_cons {l : Location} (h : l ∈ locations s js) :
    l ∈ locations s (job :: js) := by
  cases hp : job.output with
  | none => rwa [locations_cons_none hp]
  | some p => exact locations_cons_some hp ▸ List.mem_cons_of_mem _ h

lemma locations_eq (h : s.Proceeds w s') (js : List Job) : locations s' js = locations s js := by
  have hlocation : s'.locationOf = s.locationOf := funext h.locationOf_eq
  rw [locations, hlocation, locations]

lemma resultOf?_eq_some (h : resultOf? o s job = some r) :
    r.source = job.source ∧ r.output = job.output := by
  simp only [resultOf?, bind, pure, Option.bind_eq_some_iff, Option.some.injEq] at h
  obtain ⟨content, -, text, -, rfl⟩ := h
  exact ⟨rfl, rfl⟩

/-- What the first job does, and then the others. -/
lemma exists_of_mapM_perform (hs : s.WellFormed) (h : ((job :: js).mapM (perform c o)).Gives s rs u) :
    ∃ r rs' t, Performed o s job r t ∧ t.WellFormed ∧ (js.mapM (perform c o)).Gives t rs' u ∧
      r :: rs' = rs := by
  obtain ⟨r, rs', t, hjob, hjs, heq⟩ := gives_mapM_cons_iff.1 h
  have hperformed := gives_perform hs hjob
  exact ⟨r, rs', t, hperformed, hperformed.proceeds.wellFormed hs, hjs, heq⟩

/-- There is one result for each job, with its source and its output. -/
lemma map_of_mapM_perform (hs : s.WellFormed) (h : (js.mapM (perform c o)).Gives s rs u) :
    js.map (fun job => (job.source, job.output)) = rs.map fun r => (r.source, r.output) := by
  induction js generalizing s rs with
  | nil =>
    obtain ⟨rfl, -⟩ := gives_mapM_nil_iff.1 h
    rfl
  | cons job js ih =>
    obtain ⟨r, rs, t, hjob, ht, hjs, rfl⟩ := exists_of_mapM_perform hs h
    obtain ⟨hsource, houtput⟩ := resultOf?_eq_some hjob.result
    rw [List.map_cons, List.map_cons, ih ht hjs, hsource, houtput]

lemma exists_result_of_output {p : Path} (hs : s.WellFormed)
    (h : (js.mapM (perform c o)).Gives s rs u) (hjob : job ∈ js) (hp : job.output = some p) :
    ∃ r ∈ rs, r.output = some p := by
  have hmem : (job.source, some p) ∈ rs.map fun r => (r.source, r.output) :=
    map_of_mapM_perform hs h ▸ List.mem_map.2 ⟨job, hjob, by rw [hp]⟩
  obtain ⟨r, hr, heq⟩ := List.mem_map.1 hmem
  exact ⟨r, hr, (Prod.mk.inj heq).2⟩

/-- Files are written where outputs lead to, and nowhere else. -/
lemma proceeds_of_mapM_perform (hs : s.WellFormed) (h : (js.mapM (perform c o)).Gives s rs u) :
    s.Proceeds {l | l ∈ locations s js} u := by
  induction js generalizing s rs with
  | nil =>
    obtain ⟨-, rfl⟩ := gives_mapM_nil_iff.1 h
    exact .refl s
  | cons job js ih =>
    obtain ⟨r, rs, t, hjob, ht, hjs, rfl⟩ := exists_of_mapM_perform hs h
    have hothers := ih ht hjs
    rw [locations_eq hjob.proceeds] at hothers
    refine (hjob.proceeds.mono ?_).trans (hothers.mono fun _ hl => mem_locations_cons hl)
    rintro l ⟨p, hp, rfl⟩
    exact locationOf_mem_locations hp

/-- What a job has written is there at the end, as no other job writes to the same location. -/
lemma delivered_of_mapM_perform (hs : s.WellFormed) (hnodup : (locations s js).Nodup)
    (h : (js.mapM (perform c o)).Gives s rs u) :
    ∀ r ∈ rs, ∀ p, r.output = some p → u.Stores p r.markdown := by
  induction js generalizing s rs with
  | nil =>
    obtain ⟨rfl, -⟩ := gives_mapM_nil_iff.1 h
    simp
  | cons job js ih =>
    obtain ⟨r, rs, t, hjob, ht, hjs, rfl⟩ := exists_of_mapM_perform hs h
    have hlocations := locations_eq hjob.proceeds js
    refine List.forall_mem_cons.2 ⟨fun p hp => ?_, ih ht ?_ hjs⟩
    · -- the other jobs keep the file
      rw [(resultOf?_eq_some hjob.result).2] at hp
      rw [locations_cons_some hp, List.nodup_cons] at hnodup
      refine (proceeds_of_mapM_perform ht hjs).stores (fun hl => hnodup.1 ?_) (hjob.output p hp)
      rwa [← hlocations, ← hjob.proceeds.locationOf_eq p]
    · rw [hlocations]
      cases hp : job.output with
      | none => rwa [locations_cons_none hp] at hnodup
      | some p =>
        rw [locations_cons_some hp] at hnodup
        exact hnodup.of_cons

/-- Each result is that of the job alone, if no job writes where a source is read. The session `s` is
the first one, and `t` the one in which the remaining jobs begin. -/
lemma results_of_mapM_perform (ht : t.WellFormed) (hst : s.Proceeds w t)
    (hw : {l | l ∈ locations s js} ⊆ w)
    (hapart : ∀ job ∈ js, ∀ p, s.Reads job.source p → s.locationOf p ∉ w)
    (h : (js.mapM (perform c o)).Gives t rs u) : js.map (resultOf? o s) = rs.map some := by
  induction js generalizing t rs with
  | nil =>
    obtain ⟨rfl, -⟩ := gives_mapM_nil_iff.1 h
    rfl
  | cons job js ih =>
    obtain ⟨r, rs, t', hjob, ht', hjs, rfl⟩ := exists_of_mapM_perform ht h
    obtain ⟨hread, hreads⟩ := List.forall_mem_cons.1 hapart
    have hresult : resultOf? o s job = some r := by
      rw [← hjob.result, resultOf?, resultOf?, hst.contentOf?_eq hread]
    have hwrites : {l | ∃ p, job.output = some p ∧ t.locationOf p = l} ⊆ w := by
      rintro l ⟨p, hp, rfl⟩
      rw [hst.locationOf_eq]
      exact hw (locationOf_mem_locations hp)
    have hothers := ih ht' (hst.trans (hjob.proceeds.mono hwrites))
      (fun _ hl => hw (mem_locations_cons hl)) hreads hjs
    rw [List.map_cons, List.map_cons, hresult, hothers]

end Batch

end Wikidown
