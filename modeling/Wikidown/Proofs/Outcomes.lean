import Wikidown.Proofs.Commands

/-!
# Outcomes of commands

A command line that was read asks for jobs: the conversion of one source is a single job, and a batch
has the jobs of its specification (`Command.Asks`). As long as no failure goes on, the command ends with
one of two statuses. If it failed, nothing was printed, the failure was reported in one message, and a
conversion has changed no file. If it did not, the jobs were performed one after the other
(`Batch.PerformedAll`), the line of each result was printed, and each output is a file that holds the
Markdown of its job (`Command.run_outcome`).
-/

namespace Wikidown

open Run

namespace Batch

variable {c : Config} {o : Options} {s u : Session} {js : List Job} {rs : List Result} {e : Failure}

/-- Jobs are performed one after the other, each in the session that those in front of it leave. -/
inductive PerformedAll (o : Options) : Session → List Job → List Result → Session → Prop
  | nil (s : Session) : PerformedAll o s [] [] s
  | cons {s t u : Session} {job : Job} {js : List Job} {r : Result} {rs : List Result}
    (h : Performed o s job r t) (hs : PerformedAll o t js rs u) :
    PerformedAll o s (job :: js) (r :: rs) u

lemma performedAll_of_mapM_perform (hs : s.WellFormed)
    (h : (js.mapM (perform c o)).Gives s rs u) : PerformedAll o s js rs u := by
  induction js generalizing s rs with
  | nil =>
    obtain ⟨rfl, rfl⟩ := gives_mapM_nil_iff.1 h
    exact .nil s
  | cons job js ih =>
    obtain ⟨r, rs, t, hjob, ht, hjs, rfl⟩ := exists_of_mapM_perform hs h
    exact .cons hjob (ih ht hjs)

lemma PerformedAll.proceeds (h : PerformedAll o s js rs u) : s.Proceeds Set.univ u := by
  induction h with
  | nil s => exact .refl s
  | cons hjob _ ih => exact (hjob.proceeds.mono (Set.subset_univ _)).trans ih

/-- Where one of some jobs fails, files have grown, and no more than reports and requests is new. -/
lemma fails_mapM_perform (hs : s.WellFormed) (h : (js.mapM (perform c o)).Fails s e u) :
    s.Proceeds Set.univ u := by
  obtain ⟨k, job, rs, t, -, hfront, hjob⟩ := fails_mapM_iff.1 h
  have ht : s.Proceeds Set.univ t := (performedAll_of_mapM_perform hs hfront).proceeds
  rcases fails_perform (ht.wellFormed hs) hjob with ⟨hu, -⟩ | ⟨p, r, -, -, hempty⟩
  · exact ht.trans (hu.mono (Set.subset_univ _))
  · exact ht.trans (hempty.proceeds.mono (Set.subset_univ _))

end Batch

namespace Command

open Batch

variable {c : Config} {s s' t u : Session} {x : Unit} {e : Failure} {input line file : String}
variable {charset level : Option String} {output : Option Path} {strikethrough : Bool} {task : Task}
variable {i : Invocation} {args : List String} {status : Nat}

/-- The jobs that a task asks for in a session, and the choices of their conversions. -/
inductive Asks (c : Config) (s : Session) : Task → List Job → Options → Prop
  | convert {input name : String} {charset : Option String} {output : Option Path}
    {strikethrough : Bool} (h : charsetOf c charset = .ok name) :
    Asks c s (.convert input charset output strikethrough) [⟨input, output, name⟩]
      ⟨strikethrough || c.strikethrough⟩
  | runSpec {file : String} {spec : Spec} {js : List Job} (hspec : (loadSpec file).Gives s spec s)
    (hjs : (jobs spec c).Gives s js s) : Asks c s (.runSpec file) js (options spec c)

/-! ## Tasks -/

lemma not_isForeseen_fault {f : Fault} : ¬ (Failure.fault f).isForeseen = true :=
  Bool.false_ne_true

/-- A source that is converted is a job that is performed, and the line of its result is printed. -/
lemma gives_convertOne (hs : s.WellFormed)
    (h : (convertOne c input charset output strikethrough).Gives s x t) :
    ∃ name r u line, charsetOf c charset = .ok name ∧
      Performed ⟨strikethrough || c.strikethrough⟩ s ⟨input, output, name⟩ r u ∧
      r.line = .ofText line ∧ t = { u with output := u.output ++ String.ofList line ++ "\n" } := by
  rw [convertOne_eq] at h
  obtain ⟨name, s', hofExcept, hread⟩ := gives_bind_iff.1 h
  obtain ⟨hname, rfl⟩ := gives_ofExcept_iff.1 hofExcept
  obtain ⟨markdown, u, hmarkdown, hbehind⟩ := gives_bind_iff.1 hread
  obtain ⟨_, u', hdeliver, hprint⟩ := gives_bind_iff.1 hbehind
  refine ⟨name, ⟨input, output, markdown⟩, ?_⟩
  cases output with
  | none =>
    obtain ⟨-, rfl⟩ := gives_pure_iff.1 hprint
    obtain ⟨line, hline, ht⟩ := gives_printText_iff.1 hdeliver
    exact ⟨u, line, hname, performed_of_gives (x := ()) hs hmarkdown (gives_pure_iff.2 ⟨rfl, rfl⟩),
      hline, ht⟩
  | some p =>
    refine ⟨u', p.toString.toList, hname, performed_of_gives hs hmarkdown hdeliver, rfl, ?_⟩
    rw [String.ofList_toList]
    exact gives_printLine_iff.1 hprint

/-- A conversion that fails in a foreseen way has written nothing, to a file or to the output. -/
lemma fails_convertOne (hs : s.WellFormed) (he : e.isForeseen = true)
    (h : (convertOne c input charset output strikethrough).Fails s e t) : s.Proceeds ∅ t := by
  rw [convertOne_eq] at h
  rcases fails_bind_iff.1 h with hofExcept | ⟨name, s', hofExcept, hread⟩
  · obtain ⟨-, rfl⟩ := fails_ofExcept_iff.1 hofExcept
    exact .refl _
  obtain ⟨-, rfl⟩ := gives_ofExcept_iff.1 hofExcept
  rcases fails_bind_iff.1 hread with hmarkdown | ⟨markdown, u, hmarkdown, hbehind⟩
  · exact .of_unreported (keeps_sourceMarkdown.of_fails hmarkdown).1
  have hu : s.Proceeds ∅ u := .of_unreported (keeps_sourceMarkdown.of_gives hmarkdown)
  cases output with
  | none =>
    rcases fails_bind_iff.1 hbehind with hprint | ⟨_, _, -, hpure⟩
    · obtain ⟨run, -, rfl, -⟩ := fails_printText_iff.1 hprint
      exact absurd he not_isForeseen_fault
    · exact absurd hpure not_fails_pure
  | some p =>
    rcases fails_bind_iff.1 hbehind with hwrite | ⟨_, _, -, hprint⟩
    · rcases fails_writeFile (hu.wellFormed hs) hwrite with ⟨ht, -⟩ | hempty
      · exact hu.trans ht
      · obtain ⟨run, -, rfl⟩ := hempty.failure
        exact absurd he not_isForeseen_fault
    · exact absurd hprint not_fails_printLine

/-- A task that does not fail has performed the jobs that it asks for, and printed the lines of their
results; the outputs are there. -/
lemma gives_task (hs : s.WellFormed) (h : (task.run c).Gives s x t) : ∃ js o rs u lines,
    Asks c s task js o ∧ PerformedAll o s js rs u ∧ rs.map Result.line = lines.map .ofText ∧
      t = { u with output := u.output ++ printed lines } ∧
      ∀ r ∈ rs, ∀ p, r.output = some p → u.Stores p r.markdown := by
  cases task with
  | convert input charset output strikethrough =>
    obtain ⟨name, r, u, line, hname, hjob, hline, rfl⟩ := gives_convertOne hs h
    refine ⟨_, _, [r], u, [line], .convert hname, .cons hjob (.nil u), by simp [hline], ?_, ?_⟩
    · simp [printed_cons, String.append_assoc]
    · rw [List.forall_mem_singleton, (resultOf?_eq_some hjob.result).2]
      exact hjob.output
  | runSpec file =>
    rw [runSpec_run_eq] at h
    obtain ⟨spec, s', hspec, hloaded⟩ := gives_bind_iff.1 h
    obtain rfl : s' = s := (keeps_loadSpec (v := id)).of_gives hspec
    obtain ⟨js, s'', hjs, hready⟩ := gives_bind_iff.1 hloaded
    obtain rfl : s'' = s' := (keeps_jobs (v := id)).of_gives hjs
    obtain ⟨rs, u, hrun, hprint⟩ := gives_bind_iff.1 hready
    obtain ⟨lines, hlines, ht⟩ := gives_forM_printText_iff.1 hprint
    obtain ⟨dir, -, -, -, hnodup⟩ := gives_jobs_iff.1 hjs
    exact ⟨js, _, rs, u, lines, .runSpec hspec hjs, performedAll_of_mapM_perform hs hrun, hlines, ht,
      delivered_of_mapM_perform hs hnodup hrun⟩

/-- A task that fails in a foreseen way has printed nothing, and if it is a conversion, it has written
no file. -/
lemma fails_task (hs : s.WellFormed) (he : e.isForeseen = true) (h : (task.run c).Fails s e t) :
    s.Proceeds Set.univ t ∧ ((∀ file, task ≠ .runSpec file) → s.Proceeds ∅ t) := by
  cases task with
  | convert input charset output strikethrough =>
    have ht : s.Proceeds ∅ t := fails_convertOne hs he h
    exact ⟨ht.mono (Set.subset_univ _), fun _ => ht⟩
  | runSpec file =>
    refine ⟨?_, fun hne => absurd rfl (hne file)⟩
    rw [runSpec_run_eq] at h
    rcases fails_bind_iff.1 h with hspec | ⟨spec, s', hspec, hloaded⟩
    · obtain rfl : t = s := ((keeps_loadSpec (v := id)).of_fails hspec).1
      exact .refl t
    obtain rfl : s' = s := (keeps_loadSpec (v := id)).of_gives hspec
    rcases fails_bind_iff.1 hloaded with hjs | ⟨js, s'', hjs, hready⟩
    · obtain rfl : t = s' := ((keeps_jobs (v := id)).of_fails hjs).1
      exact .refl t
    obtain rfl : s'' = s' := (keeps_jobs (v := id)).of_gives hjs
    rcases fails_bind_iff.1 hready with hrun | ⟨rs, u, -, hprint⟩
    · exact fails_mapM_perform hs hrun
    · obtain ⟨run, rfl⟩ := exists_of_fails_forM_printText hprint
      exact absurd he not_isForeseen_fault

/-! ## Commands -/

lemma keeps_settings {γ : Type} {v : Session → γ} : (settings level).Keeps v fun _ => True := by
  have hconfig : Run.config.Keeps v fun _ => True :=
    keeps_get.bind fun _ => keeps_ofExcept fun _ _ => trivial
  refine hconfig.bind fun c => ?_
  split
  · exact keeps_pure
  · exact keeps_pure
  · exact (keeps_ofExcept fun _ _ => trivial).bind fun _ => keeps_pure

/-- What is asked for is done with the settings, and with their level of the log. -/
lemma gives_invocation (h : i.run.Gives s x t) : ∃ c, (settings i.level).Gives s c s ∧
    (i.task.run c).Gives { s with threshold := c.level.number } x t := by
  obtain ⟨c, s', hc, hset⟩ := gives_bind_iff.1 h
  obtain rfl : s' = s := keeps_settings.of_gives (v := id) hc
  obtain ⟨_, u, hlevel, htask⟩ := gives_bind_iff.1 hset
  obtain ⟨-, rfl⟩ := (gives_modify _ s').unique hlevel
  exact ⟨c, hc, htask⟩

lemma fails_invocation (h : i.run.Fails s e t) : t = s ∨ ∃ c : Config,
    (i.task.run c).Fails { s with threshold := c.level.number } e t := by
  rcases fails_bind_iff.1 h with hc | ⟨c, s', hc, hset⟩
  · exact .inl (keeps_settings.of_fails (v := id) hc).1
  obtain rfl : s' = s := keeps_settings.of_gives (v := id) hc
  rcases fails_bind_iff.1 hset with hlevel | ⟨_, u, hlevel, htask⟩
  · exact absurd hlevel (gives_modify _ s').not_fails
  · obtain ⟨-, rfl⟩ := (gives_modify _ s').unique hlevel
    exact .inr ⟨c, htask⟩

/-- A command that comes to its end did what it was asked for, or its failure is a foreseen one, which
it has reported. -/
lemma gives_run (hargs : readInvocation args = .ok i) (h : (run args).Gives s status t) :
    (status = success ∧ i.run.Gives s () t) ∨ (status = failed ∧ ∃ e u, i.run.Fails s e u ∧
      e.isForeseen = true ∧ t = { u with complaints := u.complaints ++ s!"error: {e.message}\n" }) := by
  rw [Gives, run_of_readInvocation hargs] at h
  rcases gives_or_fails i.run s with ⟨_, u, hi⟩ | ⟨e, u, hi⟩
  · rw [hi, endOf, Prod.mk.injEq, Except.ok.injEq] at h
    obtain ⟨rfl, rfl⟩ := h
    exact .inl ⟨rfl, hi⟩
  · rw [hi, endOf] at h
    split_ifs at h with he
    · rw [Prod.mk.injEq, Except.ok.injEq] at h
      obtain ⟨rfl, rfl⟩ := h
      exact .inr ⟨rfl, e, u, hi, he, rfl⟩
    · exact absurd (Prod.mk.inj h).1 (by simp)

/-- A command whose command line was read, and which comes to its end, has one of two statuses. If it
failed, nothing was printed, one message says why, and a command that is not for a batch has changed no
file. If it did not fail, there is no message; the jobs that it was asked for were performed one after
the other, the output has the line of each result, and each of their outputs leads to a file that holds
the Markdown of its job in UTF-8. -/
theorem run_outcome (hs : s.WellFormed) (hargs : readInvocation args = .ok i)
    (h : (run args).Gives s status t) :
    (status = success ∨ status = failed) ∧
    (status = failed → t.output = s.output ∧
      (∃ e : Failure, e.isForeseen = true ∧
        t.complaints = s.complaints ++ s!"error: {e.message}\n") ∧
      ((∀ file, i.task ≠ .runSpec file) → ∀ l, t.files.fileAt? l = s.files.fileAt? l)) ∧
    (status = success → t.complaints = s.complaints ∧
      ∃ c js o rs u lines, (settings i.level).Gives s c s ∧
        Asks c { s with threshold := c.level.number } i.task js o ∧
        PerformedAll o { s with threshold := c.level.number } js rs u ∧
        rs.map Result.line = lines.map .ofText ∧ t.output = s.output ++ printed lines ∧
        ∀ r ∈ rs, ∀ p, r.output = some p → t.Stores p r.markdown) := by
  have hlevel (c : Config) : ({ s with threshold := c.level.number } : Session).WellFormed :=
    ⟨hs.rooted, hs.current⟩
  rcases gives_run hargs h with ⟨rfl, hi⟩ | ⟨rfl, e, u, hi, he, rfl⟩
  · refine ⟨.inl rfl, fun hne => absurd hne (by decide), fun _ => ?_⟩
    obtain ⟨c, hc, htask⟩ := gives_invocation hi
    obtain ⟨js, o, rs, u, lines, hasks, hjobs, hlines, rfl, hfiles⟩ := gives_task (hlevel c) htask
    have hproceeds := hjobs.proceeds
    refine ⟨hproceeds.complaints_eq, c, js, o, rs, u, lines, hc, hasks, hjobs, hlines, ?_, hfiles⟩
    exact congrArg (· ++ _) hproceeds.output_eq
  · refine ⟨.inr rfl, fun _ => ?_, fun hne => absurd hne (by decide)⟩
    rcases fails_invocation hi with rfl | ⟨c, htask⟩
    · exact ⟨rfl, ⟨e, he, rfl⟩, fun _ _ => rfl⟩
    · obtain ⟨hproceeds, hkept⟩ := fails_task (hlevel c) he htask
      refine ⟨hproceeds.output_eq, ⟨e, he, congrArg (· ++ _) hproceeds.complaints_eq⟩, ?_⟩
      exact fun hne l => (hkept hne).files.fileAt?_eq (Set.notMem_empty l)

/-- A conversion whose source is missing, and a batch that ends well. -/
theorem run_outcome_pair :
    let s := pairSession "UTF-8" writeFirst [105] []
    (∃ t, (run ["convert", "--input=c", "--charset=UTF-8"]).Gives s failed t ∧ t.output = "" ∧
      (∃ e : Failure, e.isForeseen = true ∧ t.complaints = s!"error: {e.message}\n") ∧
      ∀ l, t.files.fileAt? l = s.files.fileAt? l) ∧
    ∃ t, (run ["run-spec", "--", "p.yaml"]).Gives s success t ∧ t.complaints = "" ∧
      t.output = "/d/n/x\ni\n" ∧ ∃ (rs : List Result) (lines : List Text),
        rs.map Result.line = lines.map .ofText ∧ t.output = printed lines ∧
        ∀ r ∈ rs, ∀ p, r.output = some p → t.Stores p r.markdown := by
  intro s
  have hs : s.WellFormed := by decide
  refine ⟨?_, ?_⟩
  · have hargs : readInvocation ["convert", "--input=c", "--charset=UTF-8"] =
        .ok ⟨none, .convert "c" (some "UTF-8") none false⟩ :=
      @readInvocation_convertLine "c" "UTF-8" none false (by simp)
    have hname : charsetOf (pairConfig "UTF-8") (some "UTF-8") = .ok "UTF-8" :=
      charsetOf_accepted readCharset_utf8 (by decide)
    have hread : (sourceBytes (pairConfig "UTF-8") "c").Fails s (.read (.missing ⟨.here, ["c"]⟩)) s := by
      cbv
    have htask : (convertOne (pairConfig "UTF-8") "c" (some "UTF-8") none false).Fails s
        (.read (.missing ⟨.here, ["c"]⟩)) s := by
      rw [convertOne_eq]
      refine fails_bind_iff.2 (.inr ⟨"UTF-8", _, gives_ofExcept_iff.2 ⟨hname, rfl⟩, ?_⟩)
      exact fails_bind_iff.2 (.inl (fails_bind_iff.2 (.inl (fails_bind_iff.2 (.inl hread)))))
    have hrun : (run ["convert", "--input=c", "--charset=UTF-8"]).Gives s failed _ :=
      (run_eq hargs (ofVariables_pairSession readCharset_utf8)).trans (congrArg endOf htask)
    obtain ⟨-, hfailed, -⟩ := run_outcome hs hargs hrun
    obtain ⟨houtput, ⟨e, he, hcomplaints⟩, hfiles⟩ := hfailed rfl
    exact ⟨_, hrun, houtput, ⟨e, he, hcomplaints.trans String.empty_append⟩, hfiles (by simp)⟩
  · obtain ⟨-, -, hsuccess⟩ := run_outcome hs readInvocation_runSpecLine gives_run_writeFirst
    obtain ⟨hcomplaints, _, _, _, rs, _, lines, -, -, -, hlines, houtput, hstores⟩ := hsuccess rfl
    exact ⟨_, gives_run_writeFirst, hcomplaints, rfl, rs, lines, hlines,
      houtput.trans String.empty_append, hstores⟩

end Command

end Wikidown
