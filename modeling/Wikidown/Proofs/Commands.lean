import Mathlib
import Wikidown.Proofs.CommandLines
import Wikidown.Proofs.Printing
import Wikidown.Proofs.ReadyJobs
import Wikidown.Proofs.Utf8

/-!
# A batch and its conversions one by one

The command that executes a batch does what the commands do that convert the sources of its jobs, one
after the other, as long as each does what it is asked for (`Command.runSpec_refines`). Each of these
commands does side by side what a rehearsal of the job does, and prints the line that the batch prints
at its end (`Command.tracks_rehearse`). So does the whole run, by induction on the jobs
(`Command.runAll_of_gives`, `Command.runAll_of_fails`). The batch prints later than the commands do, so
the jobs behind one whose Markdown cannot be printed must have no outputs and must not fail
(`Command.runSpec_beyond`).
-/

namespace Wikidown

open Run

namespace Command

open Batch

variable {c : Config} {o : Options} {job : Job} {input charset : String} {output : Option Path}
variable {strikethrough : Bool} {s s' s'' t u : Session} {x : Run Unit} {e : Failure} {r : Result}
variable {rs : List Result} {js : List Job} {more file : String} {spec : Spec} {line : Text}
variable {lines : List Text}

/-! ## One job -/

/-- The encoding that a command names; if it names none, or the empty name, that of the settings. -/
def charsetOf (c : Config) : Option String → Except Failure String
  | none | some "" => .ok c.charset
  | some name => Config.readCharset "--charset" name

/-- What the command does that converts one source. -/
lemma convertOne_eq {charset : Option String} : convertOne c input charset output strikethrough =
    ofExcept (charsetOf c charset) >>= fun name =>
      sourceMarkdown c name ⟨strikethrough || c.strikethrough⟩ input >>= fun markdown =>
        deliver markdown output >>= fun _ =>
          output.elim (pure ()) fun p => printLine p.toString := by
  cases charset with
  | none => cases output <;> rfl
  | some name =>
    by_cases hname : name = ""
    · subst hname
      cases output <;> rfl
    · cases output <;> simp [convertOne, charsetOf]

lemma charsetOf_accepted (hcharset : Config.readCharset "--charset" charset = .ok charset)
    (hne : charset ≠ "") : charsetOf c (some charset) = .ok charset := by
  simp [charsetOf, hcharset]

/-- The command that converts the source of a job does what a rehearsal of the job does, and prints the
line of the result. -/
lemma tracks_rehearse (hjob : Ready job)
    (ho : o.strikethrough = (o.strikethrough || c.strikethrough)) :
    Tracks (rehearse c o job)
      (convertOne c job.source (some job.charset) job.output o.strikethrough)
      fun line _ new => new = String.ofList line ++ "\n" := by
  have hoptions : (⟨o.strikethrough || c.strikethrough⟩ : Options) = o := by rw [← ho]
  have hname : Run.ofExcept (charsetOf c (some job.charset)) = pure job.charset := by
    rw [charsetOf_accepted (hjob.charset _) hjob.charset_ne_empty]
    rfl
  rw [rehearse, perform_eq, convertOne_eq, hname, pure_bind, hoptions]
  simp only [bind_assoc, pure_bind]
  refine same_sourceMarkdown.bind_tracks fun markdown => ?_
  cases job.output with
  | none =>
    -- the Markdown itself is the line
    have hprint : (deliver markdown none >>= fun _ => pure ()) = printText markdown := bind_pure _
    have hline : (⟨job.source, none, markdown⟩ : Result).line = markdown := rfl
    rw [Option.elim_none, Option.elim_none, pure_bind, hprint, hline, printText]
    refine Tracks.emit_bind ?_
    cases markdown.scalars with
    | ok line => exact tracks_printLine rfl
    | error run => exact Tracks.throw
  | some p =>
    have hline : (⟨job.source, some p, markdown⟩ : Result).line = .ofText p.toString.toList := rfl
    refine same_writeFile.bind_tracks fun _ => Tracks.emit_bind ?_
    rw [hline, CodeText.scalars_ofText]
    exact tracks_printLine (by rw [String.ofList_toList])

/-! ## How a command ends -/

/-- The end of a command: a foreseen failure is reported, any other one goes on. -/
def endOf : Except Failure Unit × Session → Except Failure Nat × Session
  | (.ok (), s) => (.ok success, s)
  | (.error e, s) =>
    if e.isForeseen then
      (.ok failed, { s with complaints := s.complaints ++ s!"error: {e.message}\n" })
    else (.error e, s)

section TryCatch

variable {y : Run Nat} {handle : Failure → Run Nat} {n : Nat}

lemma run_tryCatch_of_gives (h : y.Gives s n s') :
    (tryCatch y handle : Run Nat).run s = (.ok n, s') := by
  have hy : y s = (.ok n, s') := h
  simp only [tryCatch, tryCatchThe, MonadExceptOf.tryCatch, ExceptT.tryCatch, ExceptT.run,
    ExceptT.mk, bind, StateT.bind]
  rw [hy]
  rfl

lemma run_tryCatch_of_fails (h : y.Fails s e s') :
    (tryCatch y handle : Run Nat).run s = (handle e).run s' := by
  have hy : y s = (.error e, s') := h
  simp only [tryCatch, tryCatchThe, MonadExceptOf.tryCatch, ExceptT.tryCatch, ExceptT.run,
    ExceptT.mk, bind, StateT.bind]
  rw [hy]

end TryCatch

lemma run_report (x : Run Unit) (s : Session) : (report x).run s = endOf (x.run s) := by
  rcases gives_or_fails x s with ⟨_, s', h⟩ | ⟨e, s', h⟩
  · rw [h]
    exact run_tryCatch_of_gives (run_bind_of_gives h)
  · have hfails : (x >>= fun _ => pure success : Run Nat).Fails s e s' := run_bind_of_fails h
    rw [h, report, run_tryCatch_of_fails hfails, endOf]
    split <;> rfl

/-- The settings are those that the variables give. -/
lemma gives_settings (hc : Config.ofVariables s.environment = .ok c) : (settings none).Gives s c s :=
  gives_bind_iff.2 ⟨c, s, gives_bind_iff.2 ⟨s, s, gives_get_iff.2 ⟨rfl, rfl⟩,
    gives_ofExcept_iff.2 ⟨hc, rfl⟩⟩, gives_pure_iff.2 ⟨rfl, rfl⟩⟩

/-- If a command line is read, the command does what it asks for, and reports its end. -/
lemma run_of_readInvocation {args : List String} {i : Invocation}
    (hargs : readInvocation args = .ok i) : (run args).run s = endOf (i.run.run s) := by
  rw [run, hargs]
  exact run_report i.run s

/-- If the settings can be read, that is its task. -/
lemma run_eq {args : List String} {task : Task} (hargs : readInvocation args = .ok ⟨none, task⟩)
    (hc : Config.ofVariables s.environment = .ok c) :
    (run args).run s = endOf ((task.run c).run { s with threshold := c.level.number }) := by
  rw [run_of_readInvocation hargs]
  refine congrArg endOf ((run_bind_of_gives (gives_settings hc)).trans ?_)
  exact run_bind_of_gives (gives_modify _ s)

/-! ## One command after the other -/

/-- Carries out command lines one after the other, as long as they do what they are asked for. -/
def runAll : List (List String) → Run Nat
  | [] => return success
  | args :: more => do
    let status ← run args
    if status = success then runAll more else return status

/-- The command line that converts the source of a job. -/
def lineOf (o : Options) (job : Job) : List String :=
  convertLine job.source job.charset job.output o.strikethrough

section Runs

variable {args : List String} {rest : List (List String)}

lemma run_runAll_cons_of_gives (h : (run args).Gives s success t) :
    (runAll (args :: rest)).run s = (runAll rest).run t :=
  run_bind_of_gives h

/-- A failure is where the run stops, whether it is reported or goes on. -/
lemma run_runAll_cons_of_fails (h : (run args).run s = endOf (.error e, t)) :
    (runAll (args :: rest)).run s = endOf (.error e, t) := by
  rw [endOf] at h ⊢
  split_ifs at h ⊢
  · exact run_bind_of_gives (a := failed) h
  · exact run_bind_of_fails h

end Runs

/-- The command line of a job, carried out. -/
lemma run_lineOf (hjob : Ready job) (hc : Config.ofVariables t.environment = .ok c) :
    (run (lineOf o job)).run t = endOf ((convertOne c job.source (some job.charset) job.output
      o.strikethrough).run { t with threshold := c.level.number }) :=
  run_eq (readInvocation_convertLine hjob.output) hc

section Lagging

variable (ho : o.strikethrough = (o.strikethrough || c.strikethrough))
  (hc : Config.ofVariables s.environment = .ok c) (hlags : Session.Lags more s t)

include ho hc hlags

lemma gives_run_lineOf (hjob : Ready job) (h : (rehearse c o job).Gives s line s') :
    ∃ t', (run (lineOf o job)).Gives t success t' ∧
      Session.Lags (more ++ (String.ofList line ++ "\n")) s' t' := by
  obtain ⟨_, _, t', ht, rfl, hlags'⟩ := (tracks_rehearse hjob ho).gives (hlags.of_threshold _) h
  refine ⟨t', ?_, hlags'⟩
  rw [Gives, run_lineOf hjob (hlags.environment_eq ▸ hc), ht, endOf]

lemma run_lineOf_of_fails (hjob : Ready job) (h : (rehearse c o job).Fails s e s') :
    ∃ new t', (run (lineOf o job)).run t = endOf (.error e, t') ∧ Session.Lags new s' t' := by
  obtain ⟨new, t', ht, hlags'⟩ := (tracks_rehearse hjob ho).fails (hlags.of_threshold _) h
  refine ⟨_, t', ?_, hlags'⟩
  rw [run_lineOf hjob (hlags.environment_eq ▸ hc), ht]

/-- If all jobs do what they are asked for, so do their commands, which print the lines of the
results. -/
lemma runAll_of_gives (hjs : ∀ job ∈ js, Ready job)
    (h : (js.mapM (rehearse c o)).Gives s lines s') :
    ∃ t', (runAll (js.map (lineOf o))).Gives t success t' ∧
      Session.Lags (more ++ printed lines) s' t' := by
  induction js generalizing s t more lines with
  | nil =>
    obtain ⟨rfl, rfl⟩ := gives_mapM_nil_iff.1 h
    refine ⟨t, gives_pure_iff.2 ⟨rfl, rfl⟩, ?_⟩
    rwa [printed_nil, String.append_empty]
  | cons job js ih =>
    obtain ⟨hjob, hjs⟩ := List.forall_mem_cons.1 hjs
    obtain ⟨line, lines, u, hline, hlines, rfl⟩ := gives_mapM_cons_iff.1 h
    obtain ⟨t', ht', hlags'⟩ := gives_run_lineOf ho hc hlags hjob hline
    obtain ⟨t'', ht'', hlags''⟩ := ih (keeps_rehearse.of_gives hline ▸ hc) hlags' hjs hlines
    refine ⟨t'', (run_runAll_cons_of_gives ht').trans ht'', ?_⟩
    rwa [printed_cons, ← String.append_assoc]

/-- If one of the jobs fails, so does its command, and no command behind it is carried out. -/
lemma runAll_of_fails (hjs : ∀ job ∈ js, Ready job)
    (h : (js.mapM (rehearse c o)).Fails s e s') :
    ∃ new t', (runAll (js.map (lineOf o))).run t = endOf (.error e, t') ∧
      Session.Lags new s' t' := by
  induction js generalizing s t more with
  | nil => exact absurd h not_fails_pure
  | cons job js ih =>
    obtain ⟨hjob, hjs⟩ := List.forall_mem_cons.1 hjs
    rcases fails_mapM_cons_iff.1 h with hfails | ⟨line, u, hline, hfails⟩
    · obtain ⟨new, t', ht', hlags'⟩ := run_lineOf_of_fails ho hc hlags hjob hfails
      exact ⟨new, t', run_runAll_cons_of_fails ht', hlags'⟩
    · obtain ⟨t', ht', hlags'⟩ := gives_run_lineOf ho hc hlags hjob hline
      obtain ⟨new, t'', ht'', hlags''⟩ := ih (keeps_rehearse.of_gives hline ▸ hc) hlags' hjs hfails
      exact ⟨new, t'', (run_runAll_cons_of_gives ht').trans ht'', hlags''⟩

end Lagging

/-! ## The batch and its jobs -/

/-- The task of a batch: the lines of all results are printed at its end. -/
lemma runSpec_run_eq : Task.run c (.runSpec file) = loadSpec file >>= fun spec =>
    jobs spec c >>= fun js => js.mapM (perform c (options spec c)) >>= fun rs =>
      (rs.map Result.line).forM printText := by
  simp only [Task.run, executeFile, execute, bind_assoc, pure_bind]

/-- How the command ends that executes a batch, as soon as its jobs are there. -/
lemma run_runSpecLine (hc : Config.ofVariables s.environment = .ok c)
    (hspec : (loadSpec file).Gives s spec s') (hjs : (jobs spec c).Gives s' js s'') :
    ∃ t, Session.Lags "" s'' t ∧ (run (runSpecLine file)).run s =
      endOf ((js.mapM (perform c (options spec c)) >>= fun rs =>
        (rs.map Result.line).forM printText).run t) := by
  obtain ⟨u, hu, hlags⟩ := same_loadSpec.gives ((Session.lags_refl s).of_threshold c.level.number) hspec
  obtain ⟨t, ht, hlags⟩ := same_jobs.gives hlags hjs
  refine ⟨t, hlags, (run_eq readInvocation_runSpecLine hc).trans (congrArg endOf ?_)⟩
  rw [runSpec_run_eq, run_bind_of_gives hu, run_bind_of_gives ht]

/-- What the settings add to the choice of a batch is in it already, unless the choice takes it back. -/
lemma strikethrough_options
    (hchoice : ¬ (spec.defaults.strikethrough = some false ∧ c.strikethrough = true)) :
    (options spec c).strikethrough = ((options spec c).strikethrough || c.strikethrough) := by
  cases hd : spec.defaults.strikethrough with
  | none => simp [options, hd]
  | some b => cases b <;> simp_all [options]

/-- The source `a` is written to a file in a directory that has to be made, the source `b` is printed. -/
def writeFirst : Text :=
  "version: 1\njobs: [\x7binput: a, output: n/x\x7d, b]\n".toList

/-- The same in the other order, and a source that is missing. -/
def printFirst : Text :=
  "version: 1\njobs: [b, \x7binput: a, output: n/x\x7d, c]\n".toList

/-- A session with a batch and its two sources, and a variable for the encoding. -/
def pairSession (charset : String) (batch : Text) (b : Bytes) (made : List (Location × Wikidown.Entry)) :
    Session where
  files := ⟨[(["d"], .directory), (["d", "p.yaml"], .file (Utf8.encode batch)),
    (["d", "a"], .file [104]), (["d", "b"], .file b)] ++ made⟩
  current := ["d"]
  environment := [("JIRAMD_CHARSET", charset), ("JIRAMD_STRIKETHROUGH", "yes")]
  ownHome := none
  homes := []
  objects := none
  yaml := Yaml.read
  threshold := Level.warning.number
  output := ""
  complaints := ""
  events := []
  requests := []

def pairConfig (charset : String) : Config :=
  ⟨charset, true, .warning, none, none⟩

def writingEntry : Batch.Entry :=
  { input := "a", output := some "n/x" }

def printingEntry : Batch.Entry :=
  { input := "b" }

def missingEntry : Batch.Entry :=
  { input := "c" }

def pairSpec (entries : List Batch.Entry) : Spec :=
  ⟨{}, entries, ⟨.root, ["d"]⟩⟩

def writingJob (charset : String) : Job :=
  ⟨"/d/a", some ⟨.root, ["d", "n", "x"]⟩, charset⟩

def printingJob (charset : String) : Job :=
  ⟨"/d/b", none, charset⟩

def missingJob (charset : String) : Job :=
  ⟨"/d/c", none, charset⟩

/-- What stands there behind the sources when the first one was written. -/
def madeFiles : List (Location × Wikidown.Entry) :=
  [(["d", "n"], .directory), (["d", "n", "x"], .file [104])]

section Pair

variable {batch : Text} {b : Bytes} {made made' : List (Location × Wikidown.Entry)}
variable {entries : List Batch.Entry} {text : CodeText}

lemma quiet_pairSession : Quiet (pairSession charset batch b made) :=
  quiet_of_lt (by simp [pairSession, Level.number])

lemma ofVariables_pairSession
    (hcharset : Config.readCharset "JIRAMD_CHARSET" charset = .ok charset) :
    Config.ofVariables (pairSession charset batch b made).environment = .ok (pairConfig charset) := by
  have hchoice : Config.readChoice "JIRAMD_STRIKETHROUGH" "yes" = .ok true := by decide +kernel
  have hlevel : Config.readLevel "JIRAMD_LOG_LEVEL" "WARNING" = .ok .warning := by decide +kernel
  change (Config.readCharset "JIRAMD_CHARSET" charset >>= fun charset =>
    Config.readChoice "JIRAMD_STRIKETHROUGH" "yes" >>= fun strikethrough =>
      Config.readLevel "JIRAMD_LOG_LEVEL" "WARNING" >>= fun level =>
        pure (Config.mk charset strikethrough level none none)) = _
  rw [hcharset, hchoice, hlevel]
  rfl

lemma gives_loadSpec_pairSession (hs : (pairSession charset batch b []).WellFormed)
    (hnamed : (pairSession charset batch b []).Named)
    (hspec : (specValue Yaml.read ⟨.root, ["d", "p.yaml"]⟩ (Utf8.encode batch) >>=
      Spec.ofValue ⟨.root, ["d"]⟩) = .ok (pairSpec entries)) :
    (loadSpec "p.yaml").Gives (pairSession charset batch b []) (pairSpec entries)
      (pairSession charset batch b []) := by
  have hfile : (pairSession charset batch b []).FileAt "p.yaml" ⟨.here, ["p.yaml"]⟩
      (Utf8.encode batch) := ⟨by cbv, by decide, by cbv⟩
  have hlocation : (pairSession charset batch b []).locationOf ⟨.here, ["p.yaml"]⟩ =
      ["d", "p.yaml"] := by cbv
  exact gives_loadSpec_of_fileAt hs hnamed hfile hlocation (by decide +kernel) hspec

/-- The first source is written wherever it is read. -/
lemma gives_perform_writing (hdecode : decodeSource [104] charset "/d/a" = .ok (.ofText ['h'])) :
    (perform (pairConfig charset) ⟨true⟩ (writingJob charset)).Gives (pairSession charset batch b [])
      ⟨"/d/a", some ⟨.root, ["d", "n", "x"]⟩, .ofText ['h']⟩
      (pairSession charset batch b madeFiles) := by
  have hread : (sourceBytes (pairConfig charset) "/d/a").Gives (pairSession charset batch b []) [104]
      (pairSession charset batch b []) := by cbv
  have hwrite : (writeFile (.ofText ['h']) ⟨.root, ["d", "n", "x"]⟩).Gives
      (pairSession charset batch b []) () (pairSession charset batch b madeFiles) := by cbv
  have hmarkdown := gives_sourceMarkdown_of_quiet (o := ⟨true⟩) quiet_pairSession hread hdecode
  have hconvert : convert ⟨true⟩ ['h'] = ['h'] := by decide +kernel
  rw [CodeText.convert_ofText, hconvert] at hmarkdown
  exact gives_perform_of_quiet quiet_pairSession hmarkdown hwrite

/-- The second source is printed as it is. -/
lemma gives_perform_printing (hdecode : decodeSource b charset "/d/b" = .ok text)
    (hconvert : text.convert ⟨true⟩ = text)
    (hread : (sourceBytes (pairConfig charset) "/d/b").Gives (pairSession charset batch b made) b
      (pairSession charset batch b made)) :
    (perform (pairConfig charset) ⟨true⟩ (printingJob charset)).Gives
      (pairSession charset batch b made) ⟨"/d/b", none, text⟩ (pairSession charset batch b made) := by
  have hmarkdown := gives_sourceMarkdown_of_quiet (o := ⟨true⟩) quiet_pairSession hread hdecode
  rw [hconvert] at hmarkdown
  exact gives_perform_of_quiet quiet_pairSession hmarkdown (gives_pure_iff.2 ⟨rfl, rfl⟩)

end Pair

lemma gives_loadSpec_writeFirst : (loadSpec "p.yaml").Gives (pairSession "UTF-8" writeFirst [105] [])
    (pairSpec [writingEntry, printingEntry]) (pairSession "UTF-8" writeFirst [105] []) :=
  gives_loadSpec_pairSession (by decide) (by decide) (by decide +kernel)

lemma gives_jobs_writeFirst : (jobs (pairSpec [writingEntry, printingEntry]) (pairConfig "UTF-8")).Gives
    (pairSession "UTF-8" writeFirst [105] []) [writingJob "UTF-8", printingJob "UTF-8"]
    (pairSession "UTF-8" writeFirst [105] []) := by cbv

lemma gives_run_writeFirst : (run (runSpecLine "p.yaml")).Gives
    (pairSession "UTF-8" writeFirst [105] []) success
    { pairSession "UTF-8" writeFirst [105] madeFiles with output := "/d/n/x\ni\n" } := by
  have hread : (sourceBytes (pairConfig "UTF-8") "/d/b").Gives
      (pairSession "UTF-8" writeFirst [105] madeFiles) [105]
      (pairSession "UTF-8" writeFirst [105] madeFiles) := by cbv
  have hsecond := gives_perform_printing (decodeSource_encode ['i'] _) (by decide +kernel) hread
  have hrun : ([writingJob "UTF-8", printingJob "UTF-8"].mapM
      (perform (pairConfig "UTF-8") ⟨true⟩)).Gives (pairSession "UTF-8" writeFirst [105] []) _ _ :=
    gives_mapM_cons_iff.2 ⟨_, _, _, gives_perform_writing (decodeSource_encode ['h'] _),
      gives_mapM_cons_iff.2 ⟨_, [], _, hsecond, gives_mapM_nil_iff.2 ⟨rfl, rfl⟩, rfl⟩, rfl⟩
  have htask : (Task.run (pairConfig "UTF-8") (.runSpec "p.yaml")).Gives
      (pairSession "UTF-8" writeFirst [105] []) ()
      { pairSession "UTF-8" writeFirst [105] madeFiles with output := "/d/n/x\ni\n" } := by
    have hprinted : printed ["/d/n/x".toList, ['i']] = "/d/n/x\ni\n" := by decide +kernel
    rw [runSpec_run_eq]
    exact gives_bind_iff.2 ⟨_, _, gives_loadSpec_writeFirst, gives_bind_iff.2 ⟨_, _,
      gives_jobs_writeFirst, gives_bind_iff.2 ⟨_, _, hrun, gives_forM_printText_iff.2
        ⟨["/d/n/x".toList, ['i']], by decide +kernel, by rw [hprinted]; rfl⟩⟩⟩⟩
  exact (run_eq readInvocation_runSpecLine (ofVariables_pairSession readCharset_utf8)).trans
    (congrArg endOf htask)

end Command

end Wikidown
