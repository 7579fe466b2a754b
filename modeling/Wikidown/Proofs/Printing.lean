import Wikidown.Proofs.Results
import Wikidown.Proofs.SideBySide

/-!
# Printing results

At the end of a batch the lines of its results are printed, up to the first one with lone surrogates
(`Run.gives_forM_printText_iff`, `Run.fails_forM_printText`). To rehearse a job is to perform it, and to
fail if its line could not be printed (`Batch.rehearse`). A batch ends as the rehearsal of its jobs does,
if the jobs behind one that cannot be printed do nothing that shows (`Batch.IdleBehind`,
`Batch.fails_batch_of_rehearsal`).
-/

namespace Wikidown

namespace Run

variable {s t : Session} {e : Failure} {u : Unit} {line : String} {lines : List Text}
variable {m : CodeText} {ms : List CodeText} {run : LoneRun}

/-- What is printed if some lines are. -/
def printed (lines : List Text) : String :=
  String.join (lines.map fun line => String.ofList line ++ "\n")

@[simp] lemma printed_nil : printed [] = "" := by
  simp [printed, String.join]

lemma printed_cons (line : Text) (lines : List Text) :
    printed (line :: lines) = String.ofList line ++ "\n" ++ printed lines := by
  rw [printed, List.map_cons, String.join_cons, printed]

lemma gives_printLine_iff :
    (printLine line).Gives s u t ↔ t = { s with output := s.output ++ line ++ "\n" } := by
  have hprint := gives_modify (fun s : Session => { s with output := s.output ++ line ++ "\n" }) s
  constructor
  · exact fun h => (hprint.unique h).2.symm
  · rintro rfl
    exact hprint

lemma not_fails_printLine : ¬ (printLine line).Fails s e t :=
  (gives_printLine_iff.2 rfl).not_fails (a := ())

lemma gives_printText_iff : (printText m).Gives s u t ↔ ∃ line, m = .ofText line ∧
    t = { s with output := s.output ++ String.ofList line ++ "\n" } := by
  rw [printText]
  cases hm : m.scalars with
  | ok line =>
    obtain rfl := CodeText.scalars_eq_ok_iff.1 hm
    simp [gives_printLine_iff, CodeText.ofText_inj]
  | error run =>
    refine ⟨fun h => absurd h not_gives_throw, ?_⟩
    rintro ⟨line, rfl, -⟩
    simp at hm

lemma fails_printText_iff : (printText m).Fails s e t ↔
    ∃ run, m.scalars = .error run ∧ .fault (.unencodable run) = e ∧ s = t := by
  rw [printText]
  cases m.scalars with
  | ok line => simp [not_fails_printLine]
  | error run => simp [refuse]

lemma gives_forM_printText_iff : (ms.forM printText).Gives s u t ↔
    ∃ lines, ms = lines.map .ofText ∧ t = { s with output := s.output ++ printed lines } := by
  induction ms generalizing s with
  | nil =>
    rw [List.forM, gives_pure_iff]
    constructor
    · rintro ⟨-, rfl⟩
      exact ⟨[], rfl, by simp⟩
    · rintro ⟨lines, hlines, rfl⟩
      obtain rfl := List.map_eq_nil_iff.1 hlines.symm
      simp
  | cons m ms ih =>
    rw [List.forM, gives_bind_iff]
    constructor
    · rintro ⟨_, t', hm, hms⟩
      obtain ⟨line, rfl, rfl⟩ := gives_printText_iff.1 hm
      obtain ⟨lines, rfl, rfl⟩ := ih.1 hms
      exact ⟨line :: lines, rfl, by simp only [printed_cons, String.append_assoc]⟩
    · rintro ⟨lines, hlines, rfl⟩
      obtain ⟨line, lines, rfl, rfl, rfl⟩ := List.map_eq_cons_iff.1 hlines.symm
      refine ⟨(), _, gives_printText_iff.2 ⟨line, rfl, rfl⟩, ih.2 ⟨lines, rfl, ?_⟩⟩
      simp only [printed_cons, String.append_assoc]

/-- Printing fails at the first line that has lone surrogates. -/
lemma fails_forM_printText (lines : List Text) (hm : m.scalars = .error run) :
    ((lines.map CodeText.ofText ++ m :: ms).forM printText).Fails s (.fault (.unencodable run))
      { s with output := s.output ++ printed lines } := by
  induction lines generalizing s with
  | nil =>
    refine fails_bind_iff.2 (.inl (fails_printText_iff.2 ⟨run, hm, rfl, ?_⟩))
    simp
  | cons line lines ih =>
    rw [List.map_cons, List.cons_append]
    refine fails_bind_iff.2 (.inr ⟨(), _, gives_printText_iff.2 ⟨line, rfl, rfl⟩, ?_⟩)
    simpa only [printed_cons, String.append_assoc] using
      ih (s := { s with output := s.output ++ String.ofList line ++ "\n" })

/-- Printing does not fail in another way. -/
lemma exists_of_fails_forM_printText (h : (ms.forM printText).Fails s e t) :
    ∃ run, e = .fault (.unencodable run) := by
  induction ms generalizing s with
  | nil => exact absurd h not_fails_pure
  | cons m ms ih =>
    rcases fails_bind_iff.1 h with hm | ⟨_, t', -, hms⟩
    · obtain ⟨run, -, rfl, -⟩ := fails_printText_iff.1 hm
      exact ⟨run, rfl⟩
    · exact ih hms

end Run

namespace Batch

open Run

variable {c : Config} {o : Options} {s t u : Session} {job : Job} {js : List Job} {e : Failure}
variable {r : Result} {rs : List Result} {line : Text} {lines : List Text}

/-! ## Rehearsals -/

/-- The line of a result can be printed. -/
def Result.Printable (r : Result) : Prop :=
  ∃ line, r.line = .ofText line

/-- Performs a job, and gives the line of its result, if that can be printed. -/
def rehearse (c : Config) (o : Options) (job : Job) : Run Text := do
  let r ← perform c o job
  match r.line.scalars with
  | .ok line => return line
  | .error run => Run.refuse (.unencodable run)

lemma gives_rehearse_iff : (rehearse c o job).Gives s line t ↔
    ∃ r, (perform c o job).Gives s r t ∧ r.line = .ofText line := by
  rw [rehearse, gives_bind_iff]
  constructor
  · rintro ⟨r, t', hr, hline⟩
    cases hscalars : r.line.scalars with
    | ok line' =>
      rw [hscalars] at hline
      obtain ⟨rfl, rfl⟩ := gives_pure_iff.1 hline
      exact ⟨r, hr, CodeText.scalars_eq_ok_iff.1 hscalars⟩
    | error run =>
      rw [hscalars] at hline
      exact absurd hline not_gives_throw
  · rintro ⟨r, hr, hline⟩
    refine ⟨r, t, hr, ?_⟩
    rw [hline, CodeText.scalars_ofText]
    exact gives_pure_iff.2 ⟨rfl, rfl⟩

lemma fails_rehearse_iff : (rehearse c o job).Fails s e t ↔ (perform c o job).Fails s e t ∨
    ∃ r run, (perform c o job).Gives s r t ∧ r.line.scalars = .error run ∧
      .fault (.unencodable run) = e := by
  rw [rehearse, fails_bind_iff]
  refine or_congr_right ?_
  constructor
  · rintro ⟨r, t', hr, hline⟩
    cases hscalars : r.line.scalars with
    | ok line =>
      rw [hscalars] at hline
      exact absurd hline not_fails_pure
    | error run =>
      rw [hscalars] at hline
      obtain ⟨rfl, rfl⟩ := fails_throw_iff.1 hline
      exact ⟨r, run, hr, hscalars, rfl⟩
  · rintro ⟨r, run, hr, hscalars, rfl⟩
    refine ⟨r, t, hr, ?_⟩
    rw [hscalars]
    exact fails_throw_iff.2 ⟨rfl, rfl⟩

lemma keeps_rehearse : (rehearse c o job).Keeps Session.environment fun _ => True := by
  refine (keeps_perform.mono fun _ _ => trivial).bind fun r => ?_
  split
  · exact keeps_pure
  · exact keeps_throw trivial

/-- Jobs that can be rehearsed can be performed, and the lines of all results can be printed. -/
lemma gives_mapM_of_rehearsal (h : (js.mapM (rehearse c o)).Gives s lines t) :
    ∃ rs, (js.mapM (perform c o)).Gives s rs t ∧ rs.map Result.line = lines.map .ofText := by
  induction js generalizing s lines with
  | nil =>
    obtain ⟨rfl, rfl⟩ := gives_mapM_nil_iff.1 h
    exact ⟨[], by simp, rfl⟩
  | cons job js ih =>
    obtain ⟨line, lines, s', hjob, hjs, rfl⟩ := gives_mapM_cons_iff.1 h
    obtain ⟨r, hr, hline⟩ := gives_rehearse_iff.1 hjob
    obtain ⟨rs, hrs, hlines⟩ := ih hjs
    exact ⟨r :: rs, gives_mapM_cons_iff.2 ⟨r, rs, s', hr, hrs, rfl⟩, by simp [hline, hlines]⟩

/-! ## The end of a batch -/

/-- Behind a job whose result cannot be printed, no job has an output, and none fails. -/
def IdleBehind (c : Config) (o : Options) (s : Session) (js : List Job) : Prop :=
  ∀ k rs t, ((js.take k).mapM (perform c o)).Gives s rs t → (∃ r ∈ rs, ¬ r.Printable) →
    (∀ job ∈ js.drop k, job.output = none) ∧
      ∃ rs' u, ((js.drop k).mapM (perform c o)).Gives t rs' u

lemma not_printable_output (hr : ¬ r.Printable) : r.output = none := by
  cases hp : r.output with
  | none => rfl
  | some p => exact absurd ⟨p.toString.toList, by rw [Result.line, hp]⟩ hr

lemma outputs_of_mapM_perform (h : (js.mapM (perform c o)).Gives s rs t) :
    rs.map Result.output = js.map Job.output := by
  induction js generalizing s rs with
  | nil =>
    obtain ⟨rfl, -⟩ := gives_mapM_nil_iff.1 h
    rfl
  | cons job js ih =>
    obtain ⟨r, rs, u, hjob, hjs, rfl⟩ := gives_mapM_cons_iff.1 h
    rw [perform_eq] at hjob
    obtain ⟨markdown, _, -, hjob⟩ := gives_bind_iff.1 hjob
    obtain ⟨_, _, -, hjob⟩ := gives_bind_iff.1 hjob
    obtain ⟨_, _, -, hjob⟩ := gives_bind_iff.1 hjob
    obtain ⟨rfl, -⟩ := gives_pure_iff.1 hjob
    simp [ih hjs]

/-- If only the last job may have no output, there is nothing behind a job that cannot be printed. -/
lemma idleBehind_of_dropLast (h : ∀ job ∈ js.dropLast, job.output ≠ none) : IdleBehind c o s js := by
  rintro k rs t hfront ⟨r, hr, hline⟩
  have hnone : none ∈ (js.take k).map Job.output := by
    rw [← outputs_of_mapM_perform hfront, ← not_printable_output hline]
    exact List.mem_map_of_mem hr
  obtain ⟨job, hjob, hjob'⟩ := List.mem_map.1 hnone
  have hk : js.length ≤ k := by
    by_contra hk
    refine h job ?_ hjob'
    rw [List.dropLast_eq_take]
    exact (List.take_subset_take_left js (by omega)) hjob
  rw [List.drop_eq_nil_of_le hk]
  exact ⟨by simp, [], t, by simp⟩

/-- Jobs without outputs leave a session as it is, apart from what is reported and requested. -/
lemma keeps_mapM_perform_of_none (h : ∀ job ∈ js, job.output = none) :
    (js.mapM (perform c o)).Keeps Session.unreported fun _ => True := by
  refine keeps_mapM fun job hjob => ?_
  rw [perform_eq, h job hjob]
  exact (keeps_sourceMarkdown.mono fun _ _ => trivial).bind fun _ =>
    keeps_pure.bind fun _ => keeps_emit.bind fun _ => keeps_pure

lemma same_perform : Same (perform c o job) := by
  rw [perform_eq]
  refine same_sourceMarkdown.bind fun markdown => Same.bind ?_ fun _ =>
    same_emit.bind fun _ => Same.pure
  cases job.output with
  | none => exact Same.pure
  | some p => exact same_writeFile

/-- Reports make no difference to what the jobs do. -/
lemma IdleBehind.of_lags (h : IdleBehind c o s js) (hlags : Session.Lags "" s t) :
    IdleBehind c o t js := by
  intro k rs t' hfront hr
  obtain ⟨s', hfront', hlags'⟩ := (same_mapM fun _ => same_perform).gives hlags.symm hfront
  obtain ⟨hnone, rs', u, hrest⟩ := h k rs s' hfront' hr
  obtain ⟨u', hrest', -⟩ := (same_mapM fun _ => same_perform).gives hlags'.symm hrest
  exact ⟨hnone, rs', u', hrest'⟩

/-- A batch whose jobs can be rehearsed prints all lines. -/
lemma gives_batch_of_rehearsal (h : (js.mapM (rehearse c o)).Gives s lines t) :
    (js.mapM (perform c o) >>= fun rs => (rs.map Result.line).forM printText).Gives s ()
      { t with output := t.output ++ printed lines } := by
  obtain ⟨rs, hrs, hlines⟩ := gives_mapM_of_rehearsal h
  exact gives_bind_iff.2 ⟨rs, t, hrs, gives_forM_printText_iff.2 ⟨lines, hlines, rfl⟩⟩

/-- A batch whose jobs cannot be rehearsed fails in the same way, and the files are the same, if nothing
is done behind a job that cannot be printed. -/
lemma fails_batch_of_rehearsal (hidle : IdleBehind c o s js)
    (h : (js.mapM (rehearse c o)).Fails s e t) : ∃ u,
      (js.mapM (perform c o) >>= fun rs => (rs.map Result.line).forM printText).Fails s e u ∧
        u.files = t.files ∧ u.complaints = t.complaints := by
  obtain ⟨k, job, lines, s', hk, hfront, hjob⟩ := fails_mapM_iff.1 h
  obtain ⟨rs, hrs, hlines⟩ := gives_mapM_of_rehearsal hfront
  rcases fails_rehearse_iff.1 hjob with hfails | ⟨r, run, hr, hrun, rfl⟩
  · exact ⟨t, fails_bind_iff.2 (.inl (fails_mapM_iff.2 ⟨k, job, rs, s', hk, hrs, hfails⟩)), rfl, rfl⟩
  · -- the other jobs are performed before the line is printed
    have htake : js.take (k + 1) = js.take k ++ [job] := by rw [List.take_add_one, hk]; rfl
    have hthis : ((js.take (k + 1)).mapM (perform c o)).Gives s (rs ++ [r]) t := by
      rw [htake]
      exact gives_mapM_append_iff.2 ⟨rs, [r], s', hrs,
        gives_mapM_cons_iff.2 ⟨r, [], t, hr, by simp, rfl⟩, rfl⟩
    have hr : ¬ r.Printable := by
      rintro ⟨line, hline⟩
      simp [hline] at hrun
    obtain ⟨hnone, rs', u, hrest⟩ := hidle (k + 1) _ t hthis ⟨r, by simp, hr⟩
    have hall : (js.mapM (perform c o)).Gives s (rs ++ [r] ++ rs') u := by
      rw [← List.take_append_drop (k + 1) js]
      exact gives_mapM_append_iff.2 ⟨_, _, t, hthis, hrest, rfl⟩
    have hprint : (((rs ++ [r] ++ rs').map Result.line).forM printText).Fails u
        (.fault (.unencodable run)) { u with output := u.output ++ printed lines } := by
      rw [List.append_assoc, List.map_append, hlines, List.singleton_append, List.map_cons]
      exact fails_forM_printText lines hrun
    have hu : u.unreported = t.unreported := (keeps_mapM_perform_of_none hnone).of_gives hrest
    have hfiles := congrArg Session.files hu
    have hcomplaints := congrArg Session.complaints hu
    exact ⟨_, fails_bind_iff.2 (.inr ⟨_, u, hall, hprint⟩), hfiles, hcomplaints⟩

end Batch

end Wikidown
