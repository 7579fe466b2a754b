import Mathlib
import Wikidown.Proofs.Results
import Wikidown.Proofs.Utf8
import Wikidown.Yaml.Value

/-!
# Batches

What can be said of a batch as a whole. A batch that ends well loses no output: every file that a job
was to write is there at the end, and no other file has changed (`Batch.outputs_kept`). Two outputs
that are the same file are refused before anything is read or written (`Batch.collisions_rejected`).
A batch that fails has done what the jobs in front of the failing one do, and no more than to make
directories, unless Markdown with lone surrogates was to be written: then the output of the failing job
is empty (`Batch.stops_at_first_failure`). The order of the jobs does not matter as long as none of them
writes what another one reads (`Batch.order_irrelevant`).
-/

namespace Wikidown

namespace Batch

open Run

variable {spec : Spec} {c : Config} {s s' t u u' : Session} {dir : Option Path} {js js' : List Job}
variable {entries entries' : List Entry} {rs rs' : List Result} {e : Failure}

lemma gives_execute (h : (execute spec c).Gives s rs u) :
    ∃ js, (jobs spec c).Gives s js s ∧ (js.mapM (perform c (options spec c))).Gives s rs u := by
  obtain ⟨js, t, hjs, hrun⟩ := gives_bind_iff.1 h
  obtain rfl : t = s := keeps_jobs.of_gives (v := id) hjs
  exact ⟨js, hjs, hrun⟩

lemma gives_execute_iff (hjs : (jobs spec c).Gives s js s) : (execute spec c).Gives s rs u ↔
    (js.mapM (perform c (options spec c))).Gives s rs u := by
  refine ⟨fun h => ?_, fun hrun => gives_bind_iff.2 ⟨js, s, hjs, hrun⟩⟩
  obtain ⟨js', hjs', hrun⟩ := gives_execute h
  obtain ⟨rfl, -⟩ := hjs.unique hjs'
  exact hrun

/-- Files are written where the outputs of the jobs lead to, and at the end each result is there. -/
lemma executed_of_gives (hs : s.WellFormed) (hjs : (jobs spec c).Gives s js s)
    (h : (execute spec c).Gives s rs u) : s.Proceeds {l | l ∈ locations s js} u ∧
      ∀ r ∈ rs, ∀ p, r.output = some p → u.Stores p r.markdown := by
  obtain ⟨dir, -, -, -, hnodup⟩ := gives_jobs_iff.1 hjs
  have hrun := (gives_execute_iff hjs).1 h
  exact ⟨proceeds_of_mapM_perform hs hrun, delivered_of_mapM_perform hs hnodup hrun⟩

/-- A location that a job writes to is the one that the output of a result is resolved to. -/
lemma exists_result_of_mem_locations {l : Location} (hs : s.WellFormed)
    (hjs : (jobs spec c).Gives s js s) (h : (execute spec c).Gives s rs u)
    (hl : l ∈ locations s js) : ∃ r ∈ rs, ∃ p, r.output = some p ∧ s.locationOf p = l ∧
      s.files.resolve s.current p = .ok (FileTree.pathOf l) := by
  obtain ⟨dir, -, -, hresolves, -⟩ := gives_jobs_iff.1 hjs
  obtain ⟨job, hjob, p, hp, rfl⟩ := mem_locations_iff.1 hl
  obtain ⟨r, hr, hrp⟩ := exists_result_of_output hs ((gives_execute_iff hjs).1 h) hjob hp
  obtain ⟨q, hq⟩ := hresolves job hjob p hp
  exact ⟨r, hr, p, hrp, rfl, eq_of_gives_resolve hq ▸ gives_resolve hq⟩

/-! ## A small batch -/

/-- The settings of a small batch. -/
def sampleConfig : Config :=
  ⟨"UTF-8", true, .info, none, none⟩

/-- A session in the root directory, where nothing is reported. -/
def sampleSession (files : List (Location × Wikidown.Entry)) : Session where
  files := ⟨files⟩
  current := []
  environment := []
  ownHome := none
  homes := []
  objects := none
  yaml := Yaml.read
  threshold := 100
  output := ""
  complaints := ""
  events := []
  requests := []

/-- Two sources, an old output, and a link to a directory. -/
def sampleFiles : List (Location × Wikidown.Entry) :=
  [(["a"], .file [104]), (["b"], .file [105]), (["y"], .file [111]), (["d"], .directory),
    (["l"], .link "d")]

/-- The first output stands behind the link, in a directory that has to be made; the second one is there
already. -/
def sampleSpec : Spec :=
  ⟨{}, [{ input := "a", output := some "l/n/x" }, { input := "b", output := some "y" }], ⟨.here, []⟩⟩

def linkedJob : Job :=
  ⟨"a", some ⟨.here, ["l", "n", "x"]⟩, "UTF-8"⟩

def plainJob : Job :=
  ⟨"b", some ⟨.here, ["y"]⟩, "UTF-8"⟩

def linkedResult : Result :=
  ⟨"a", some ⟨.here, ["l", "n", "x"]⟩, .ofText ['h']⟩

def plainResult : Result :=
  ⟨"b", some ⟨.here, ["y"]⟩, .ofText ['i']⟩

/-- What stands there after the first job. -/
def linkedFiles : List (Location × Wikidown.Entry) :=
  sampleFiles ++ [(["d", "n"], .directory), (["d", "n", "x"], .file [104])]

/-- What stands there after the second job, if it is the first one to be performed. -/
def plainFiles : List (Location × Wikidown.Entry) :=
  [(["a"], .file [104]), (["b"], .file [105]), (["y"], .file [105]), (["d"], .directory),
    (["l"], .link "d")]

/-- What stands there after both jobs. -/
def writtenFiles : List (Location × Wikidown.Entry) :=
  plainFiles ++ [(["d", "n"], .directory), (["d", "n", "x"], .file [104])]

lemma quiet_sampleSession (files : List (Location × Wikidown.Entry)) :
    Quiet (sampleSession files) :=
  quiet_of_lt (by simp [sampleSession, Level.number])

lemma gives_jobs_sample : (jobs sampleSpec sampleConfig).Gives (sampleSession sampleFiles)
    [linkedJob, plainJob] (sampleSession sampleFiles) := by cbv

section Sample

variable {files files' : List (Location × Wikidown.Entry)} {source : String} {p : Path} {text : Text}

/-- A job whose source is not rewritten. -/
lemma gives_perform_sample (hconvert : convert ⟨true⟩ text = text)
    (hread : (sourceBytes sampleConfig source).Gives (sampleSession files) (Utf8.encode text)
      (sampleSession files))
    (hwrite : (writeFile (.ofText text) p).Gives (sampleSession files) () (sampleSession files')) :
    (perform sampleConfig ⟨true⟩ ⟨source, some p, "UTF-8"⟩).Gives (sampleSession files)
      ⟨source, some p, .ofText text⟩ (sampleSession files') := by
  have hmarkdown := gives_sourceMarkdown_of_quiet (o := ⟨true⟩) (quiet_sampleSession files) hread
    (decodeSource_encode text source)
  rw [CodeText.convert_ofText, hconvert] at hmarkdown
  exact gives_perform_of_quiet (quiet_sampleSession _) hmarkdown hwrite

lemma gives_perform_linked
    (hread : (sourceBytes sampleConfig "a").Gives (sampleSession files) [104] (sampleSession files))
    (hwrite : (writeFile (.ofText ['h']) ⟨.here, ["l", "n", "x"]⟩).Gives (sampleSession files) ()
      (sampleSession files')) :
    (perform sampleConfig ⟨true⟩ linkedJob).Gives (sampleSession files) linkedResult
      (sampleSession files') :=
  gives_perform_sample (by decide +kernel) hread hwrite

lemma gives_perform_plain
    (hread : (sourceBytes sampleConfig "b").Gives (sampleSession files) [105] (sampleSession files))
    (hwrite : (writeFile (.ofText ['i']) ⟨.here, ["y"]⟩).Gives (sampleSession files) ()
      (sampleSession files')) :
    (perform sampleConfig ⟨true⟩ plainJob).Gives (sampleSession files) plainResult
      (sampleSession files') :=
  gives_perform_sample (by decide +kernel) hread hwrite

end Sample

lemma gives_perform_first : (perform sampleConfig ⟨true⟩ linkedJob).Gives (sampleSession sampleFiles)
    linkedResult (sampleSession linkedFiles) :=
  gives_perform_linked (by cbv) (by cbv)

lemma gives_execute_sample : (execute sampleSpec sampleConfig).Gives (sampleSession sampleFiles)
    [linkedResult, plainResult] (sampleSession writtenFiles) := by
  have hsecond : (perform sampleConfig ⟨true⟩ plainJob).Gives (sampleSession linkedFiles) plainResult
      (sampleSession writtenFiles) := gives_perform_plain (by cbv) (by cbv)
  have hrest : ([plainJob].mapM (perform sampleConfig ⟨true⟩)).Gives (sampleSession linkedFiles)
      [plainResult] (sampleSession writtenFiles) :=
    gives_mapM_cons_iff.2 ⟨_, [], _, hsecond, by simp, rfl⟩
  exact gives_bind_iff.2 ⟨_, _, gives_jobs_sample,
    gives_mapM_cons_iff.2 ⟨_, _, _, gives_perform_first, hrest, rfl⟩⟩

/-! ## Outputs -/

/-- A batch that ends well has one result for each entry, with the source and the output of its job.
At the end, the path of every output leads to a file that holds the Markdown of that result, and no
file has changed that no output was resolved to. -/
theorem outputs_kept (hs : s.WellFormed) (h : (execute spec c).Gives s rs u) :
    (∃ dir, (outputDir spec).Gives s dir s ∧
      List.Forall₂ (fun entry r => ∃ job, (jobOf spec c dir entry).Gives s job s ∧
        (job.source, job.output) = (r.source, r.output)) spec.entries rs) ∧
    (∀ r ∈ rs, ∀ p, r.output = some p → u.Stores p r.markdown) ∧
    ∀ l, (∀ r ∈ rs, ∀ p, r.output = some p →
        s.files.resolve s.current p ≠ .ok (FileTree.pathOf l)) →
      u.files.fileAt? l = s.files.fileAt? l := by
  obtain ⟨js, hjs, hrun⟩ := gives_execute h
  obtain ⟨dir, hdir, hhave, -, -⟩ := gives_jobs_iff.1 hjs
  obtain ⟨hu, hout⟩ := executed_of_gives hs hjs h
  refine ⟨⟨dir, hdir, ?_⟩, hout, fun l hl => hu.files.fileAt?_eq fun hmem => ?_⟩
  · -- an entry and its result have the source and the output of the same job
    have hentries : List.Forall₂ (fun entry o => ∃ job, (jobOf spec c dir entry).Gives s job s ∧
        (job.source, job.output) = o) spec.entries (js.map fun job => (job.source, job.output)) :=
      List.forall₂_map_right_iff.2 (hhave.imp fun _ job hjob => ⟨job, hjob, rfl⟩)
    rw [map_of_mapM_perform hs hrun] at hentries
    exact List.forall₂_map_right_iff.1 hentries
  · obtain ⟨r, hr, p, hp, -, hresolve⟩ := exists_result_of_mem_locations hs hjs h hmem
    exact hl r hr p hp hresolve

/-- In the small batch both files are there in the end, the one behind the link and the old one, and
the sources are kept. -/
theorem outputs_kept_sample : (sampleSession sampleFiles).WellFormed ∧
    (execute sampleSpec sampleConfig).Gives (sampleSession sampleFiles)
      [linkedResult, plainResult] (sampleSession writtenFiles) ∧
    (sampleSession writtenFiles).Stores ⟨.here, ["l", "n", "x"]⟩ (.ofText ['h']) ∧
    (sampleSession writtenFiles).Stores ⟨.here, ["y"]⟩ (.ofText ['i']) := by
  have hs : (sampleSession sampleFiles).WellFormed := by decide
  obtain ⟨-, hout, -⟩ := outputs_kept hs gives_execute_sample
  exact ⟨hs, gives_execute_sample, hout linkedResult (by simp) _ rfl,
    hout plainResult (by simp) _ rfl⟩

/-! ## Collisions -/

/-- The outputs of two jobs are resolved to the same path. -/
def SameOutput (s : Session) (a b : Job) : Prop :=
  ∃ p q r, a.output = some p ∧ b.output = some q ∧ (Run.resolve p).Gives s r s ∧
    (Run.resolve q).Gives s r s

lemma sameOutput_iff {a b : Job}
    (hresolves : ∀ p, a.output = some p → ∃ r, (Run.resolve p).Gives s r s)
    (hresolves' : ∀ p, b.output = some p → ∃ r, (Run.resolve p).Gives s r s) : SameOutput s a b ↔
      ∃ l, a.output.map s.locationOf = some l ∧ b.output.map s.locationOf = some l := by
  constructor
  · rintro ⟨p, q, r, hp, hq, hpr, hqr⟩
    have hpath := (eq_of_gives_resolve hpr).symm.trans (eq_of_gives_resolve hqr)
    obtain ⟨-, hlocation⟩ := Path.mk.inj hpath
    exact ⟨s.locationOf p, by rw [hp, Option.map_some], by rw [hq, Option.map_some, hlocation]⟩
  · rintro ⟨l, ha, hb⟩
    obtain ⟨p, hp, rfl⟩ := Option.map_eq_some_iff.1 ha
    obtain ⟨q, hq, hlocation⟩ := Option.map_eq_some_iff.1 hb
    obtain ⟨r, hr⟩ := hresolves p hp
    obtain ⟨r', hr'⟩ := hresolves' q hq
    have hpath : r' = r := by rw [eq_of_gives_resolve hr, eq_of_gives_resolve hr', hlocation]
    exact ⟨p, q, r, hp, hq, hr, hpath ▸ hr'⟩

/-- Outputs lead to different locations unless two of them are resolved to the same path. -/
lemma not_nodup_locations_iff (hresolves : Resolvable s js) : ¬ (locations s js).Nodup ↔
    ∃ (i j : Nat) (a b : Job), i ≠ j ∧ js[i]? = some a ∧ js[j]? = some b ∧ SameOutput s a b := by
  have hsame {i j : Nat} {a b : Job} (hi : js[i]? = some a) (hj : js[j]? = some b) :=
    sameOutput_iff (hresolves a (List.mem_of_getElem? hi)) (hresolves b (List.mem_of_getElem? hj))
  rw [locations, List.Nodup, List.pairwise_filterMap, List.pairwise_iff_getElem]
  constructor
  · intro h
    push Not at h
    obtain ⟨i, j, hi, hj, hij, l, hl, l', hl', rfl⟩ := h
    have hi' := List.getElem?_eq_getElem hi
    have hj' := List.getElem?_eq_getElem hj
    exact ⟨i, j, js[i], js[j], hij.ne, hi', hj', (hsame hi' hj').2 ⟨l, hl, hl'⟩⟩
  · rintro ⟨i, j, a, b, hij, hi, hj, hab⟩ h
    obtain ⟨l, ha, hb⟩ := (hsame hi hj).1 hab
    obtain ⟨hi', rfl⟩ := List.getElem?_eq_some_iff.1 hi
    obtain ⟨hj', rfl⟩ := List.getElem?_eq_some_iff.1 hj
    rcases Nat.lt_or_gt_of_ne hij with hlt | hlt
    · exact h i j hi' hj' hlt l ha l hb rfl
    · exact h j i hj' hi' hlt l hb l ha rfl

/-- A batch fails about the specification only as its jobs are made, and leaves the session as it was. -/
lemma fails_execute_iff {x : SpecError} : (execute spec c).Fails s (.spec x) u ↔
    (jobs spec c).Fails s (.spec x) s ∧ u = s := by
  constructor
  · intro h
    rcases fails_bind_iff.1 h with hjs | ⟨js, t, -, hrun⟩
    · obtain rfl : u = s := (keeps_jobs.of_fails (v := id) hjs).1
      exact ⟨hjs, rfl⟩
    · obtain ⟨k, job, rs, t', -, -, hjob⟩ := fails_mapM_iff.1 hrun
      exact absurd rfl ((keeps_perform.of_fails hjob).2 x)
  · rintro ⟨hjs, rfl⟩
    exact fails_bind_iff.2 (.inl hjs)

/-- Whether a batch fails about the specification. -/
lemma exists_fails_execute_iff : (∃ x u, (execute spec c).Fails s (.spec x) u) ↔
    ∃ x, (jobs spec c).Fails s (.spec x) s := by
  simp only [fails_execute_iff, exists_and_left, exists_eq, and_true]

/-- If all entries have jobs whose outputs can be resolved, a batch fails about the specification just
if the outputs of two different jobs are resolved to the same path. Then the session is as before,
nothing being reported or requested, whatever the files and remote objects hold; and the order of the
entries does not matter. -/
theorem collisions_rejected (hdir : (outputDir spec).Gives s dir s)
    (hjs : HaveJobs spec c dir s spec.entries js) (hresolves : Resolvable s js) :
    ((∃ x u, (execute spec c).Fails s (.spec x) u) ↔
      ∃ (i j : Nat) (a b : Job), i ≠ j ∧ js[i]? = some a ∧ js[j]? = some b ∧ SameOutput s a b) ∧
    (∀ x u, (execute spec c).Fails s (.spec x) u → u = s ∧ ∀ contents objects,
      (execute spec c).Fails (s.refill contents objects) (.spec x) (s.refill contents objects)) ∧
    ∀ entries', entries'.Perm spec.entries →
      ((∃ x u, (execute { spec with entries := entries' } c).Fails s (.spec x) u) ↔
        ∃ x u, (execute spec c).Fails s (.spec x) u) := by
  have hfails := fails_jobs_iff hdir hjs hresolves
  refine ⟨?_, fun x u h => ?_, fun entries' hperm => ?_⟩
  · rw [exists_fails_execute_iff, hfails, not_nodup_locations_iff hresolves]
  · obtain ⟨hplan, rfl⟩ := fails_execute_iff.1 h
    exact ⟨rfl, fun contents objects => fails_execute_iff.2 ⟨ignores_jobs.fails hplan, rfl⟩⟩
  · -- in another order the entries have the same jobs, in that order
    obtain ⟨js', hjs', hperm'⟩ := List.perm_comp_forall₂ hperm hjs
    have hresolves' : Resolvable s js' := fun job hjob => hresolves job (hperm'.subset hjob)
    have hfails' : (∃ x, (jobs { spec with entries := entries' } c).Fails s (.spec x) s) ↔
        ¬ (locations s js').Nodup := fails_jobs_iff hdir hjs' hresolves'
    rw [exists_fails_execute_iff, exists_fails_execute_iff, hfails, hfails', locations, locations,
      (hperm'.filterMap _).nodup_iff]

/-- Through the link, and to the directory that it leads to: the same file. -/
def collidingSpec : Spec :=
  ⟨{}, [{ input := "a", output := some "l/x" }, { input := "b", output := some "d/x" }], ⟨.here, []⟩⟩

def collidingJobs : List Job :=
  [⟨"a", some ⟨.here, ["l", "x"]⟩, "UTF-8"⟩, ⟨"b", some ⟨.here, ["d", "x"]⟩, "UTF-8"⟩]

lemma haveJobs_colliding : HaveJobs collidingSpec sampleConfig none (sampleSession sampleFiles)
    collidingSpec.entries collidingJobs := by
  refine .cons ?_ (.cons ?_ .nil) <;> cbv

lemma gives_resolve_colliding : ∀ p ∈ collidingJobs.filterMap Job.output,
    (Run.resolve p).Gives (sampleSession sampleFiles) ⟨.root, ["d", "x"]⟩
      (sampleSession sampleFiles) := by
  refine List.forall_mem_cons.2 ⟨?_, List.forall_mem_singleton.2 ?_⟩ <;> cbv

theorem collisions_rejected_sample : ∃ x, (execute collidingSpec sampleConfig).Fails
    (sampleSession sampleFiles) (.spec x) (sampleSession sampleFiles) := by
  have hdir : (outputDir collidingSpec).Gives (sampleSession sampleFiles) none
      (sampleSession sampleFiles) := gives_pure_iff.2 ⟨rfl, rfl⟩
  have hresolves : Resolvable (sampleSession sampleFiles) collidingJobs := fun job hjob p hp =>
    ⟨_, gives_resolve_colliding p (List.mem_filterMap.2 ⟨job, hjob, hp⟩)⟩
  obtain ⟨hiff, hunchanged, -⟩ := collisions_rejected hdir haveJobs_colliding hresolves
  obtain ⟨x, u, h⟩ := hiff.2 ⟨0, 1, _, _, by decide, rfl, rfl, _, _, _, rfl, rfl,
    gives_resolve_colliding _ (by decide), gives_resolve_colliding _ (by decide)⟩
  obtain ⟨rfl, -⟩ := hunchanged x u h
  exact ⟨x, h⟩

/-! ## The first failure -/

/-- The first `k` jobs of a batch end well, in a session `t`, and the next one, performed there,
fails. -/
structure StopsAt (spec : Spec) (c : Config) (s : Session) (k : Nat) (job : Job) (t : Session)
    (e : Failure) (u : Session) : Prop where
  before : ∃ rs, (execute { spec with entries := spec.entries.take k } c).Gives s rs t
  here : ∃ js, (jobs spec c).Gives s js s ∧ js[k]? = some job
  fails : (perform c (options spec c) job).Fails t e u

/-- Apart from some locations, all that is new in a session are directories. -/
structure Spared (w : Set Location) (t u : Session) : Prop where
  files : ∀ l, l ∉ w → u.files.fileAt? l = t.files.fileAt? l
  entries : ∀ l, l ∉ w → u.files.get? l = t.files.get? l ∨
    t.files.get? l = none ∧ u.files.get? l = some .directory

lemma spared_of_proceeds {w : Set Location} (h : t.Proceeds w u) : Spared w t u :=
  ⟨fun _ hl => h.files.fileAt?_eq hl, fun _ hl => h.files.get?_eq_or hl⟩

lemma gives_execute_take_iff (h : (jobs spec c).Gives s js s) (k : Nat) :
    (execute { spec with entries := spec.entries.take k } c).Gives s rs t ↔
      ((js.take k).mapM (perform c (options spec c))).Gives s rs t := by
  have hjs : (jobs { spec with entries := spec.entries.take k } c).Gives s (js.take k) s := by
    obtain ⟨dir, hdir, hhave, hresolves, hnodup⟩ := gives_jobs_iff.1 h
    refine gives_jobs_iff.2 ⟨dir, hdir, List.forall₂_take k hhave, ?_, ?_⟩
    · exact fun job hjob => hresolves job (List.mem_of_mem_take hjob)
    · exact hnodup.sublist ((List.take_sublist k js).filterMap _)
  exact gives_execute_iff hjs

lemma StopsAt.le {j k : Nat} {job job' : Job} {e' : Failure} (h : StopsAt spec c s k job t e u)
    (h' : StopsAt spec c s j job' s' e' u') : j ≤ k := by
  obtain ⟨⟨rs, hbefore⟩, ⟨js, hjs, hk⟩, hjob⟩ := h
  obtain ⟨rs', hbefore'⟩ := h'.before
  rw [gives_execute_take_iff hjs] at hbefore hbefore'
  exact le_of_fails_mapM hk hbefore hjob hbefore'

/-- The jobs in front of the one at which a batch stops leave a session that is one. -/
lemma StopsAt.wellFormed {k : Nat} {job : Job} (h : StopsAt spec c s k job t e u)
    (hs : s.WellFormed) : t.WellFormed := by
  obtain ⟨rs, hbefore⟩ := h.before
  obtain ⟨js, hjs, -⟩ := gives_execute hbefore
  exact (executed_of_gives hs hjs hbefore).1.wellFormed hs

/-- A batch that fails stops at one of its jobs, and no job behind that one is performed. -/
lemma exists_stopsAt (hjs : (jobs spec c).Gives s js s) (h : (execute spec c).Fails s e u) :
    ∃ k job t, StopsAt spec c s k job t e u ∧
      ∀ others, ((js.take (k + 1) ++ others).mapM (perform c (options spec c))).Fails s e u := by
  rcases fails_bind_iff.1 h with hfails | ⟨js', t', hjs', hrun⟩
  · exact absurd hfails hjs.not_fails
  obtain ⟨rfl, rfl⟩ := hjs.unique hjs'
  obtain ⟨k, job, rs, t, hk, hbefore, hjob⟩ := fails_mapM_iff.1 hrun
  refine ⟨k, job, t, ⟨⟨rs, (gives_execute_take_iff hjs k).2 hbefore⟩, ⟨js, hjs, hk⟩, hjob⟩,
    fun others => ?_⟩
  have hlt : k < (js.take (k + 1)).length := by
    have hk' := (List.getElem?_eq_some_iff.1 hk).1
    rw [List.length_take]
    omega
  refine fails_mapM_iff.2 ⟨k, job, rs, t, ?_, ?_, hjob⟩
  · rw [List.getElem?_append_left hlt, List.getElem?_take_of_lt (Nat.lt_succ_self k), hk]
  · rwa [List.take_append_of_le_length hlt.le, List.take_take, Nat.min_eq_left (Nat.le_succ k)]

/-- If a batch whose jobs can be made fails, there is exactly one job at which it stops: those in front
of it end well, and it fails in the session that they lead to, in the same way; whatever other jobs come
behind it, the failure and the session at the end are the same. Compared with the session that the jobs
in front lead to, no file has changed, and all that may be new are directories, unless the failure is
that the Markdown of the job has lone surrogates: then its output is an empty file, and apart from that
nothing else is new. -/
theorem stops_at_first_failure (hs : s.WellFormed) (hjs : (jobs spec c).Gives s js s)
    (h : (execute spec c).Fails s e u) : ∃ k job t, StopsAt spec c s k job t e u ∧
      (∀ k' job' t' e' u', StopsAt spec c s k' job' t' e' u' → k' = k) ∧
      (∀ others, ((js.take (k + 1) ++ others).mapM (perform c (options spec c))).Fails s e u) ∧
      ((∀ run, e ≠ .fault (.unencodable run)) → Spared ∅ t u) ∧
      ∀ run, e = .fault (.unencodable run) → ∃ p r, job.output = some p ∧
        resultOf? (options spec c) t job = some r ∧ r.markdown.scalars = .error run ∧
        u.files.look u.current p = .ok (.file []) ∧ u.files.fileAt? (t.locationOf p) = some [] ∧
        Spared {t.locationOf p} t u := by
  obtain ⟨k, job, t, hstops, hothers⟩ := exists_stopsAt hjs h
  refine ⟨k, job, t, hstops, fun k' job' t' e' u' hstops' => ?_, hothers, ?_⟩
  · exact le_antisymm (hstops.le hstops') (hstops'.le hstops)
  rcases fails_perform (hstops.wellFormed hs) hstops.fails with
    ⟨hproceeds, he⟩ | ⟨p, r, hp, hr, ⟨run, hrun, rfl⟩, hproceeds, hlook⟩
  · exact ⟨fun _ => spared_of_proceeds hproceeds, fun run hrun => absurd hrun (he.2 run)⟩
  · refine ⟨fun hne => absurd rfl (hne run), fun run' hrun' => ?_⟩
    obtain rfl : run = run' := by simpa using hrun'
    exact ⟨p, r, hp, hr, hrun, hlook, hproceeds.fileAt?_of_look hlook, spared_of_proceeds hproceeds⟩

/-- The second source of this batch is missing. -/
def stoppingSpec : Spec :=
  ⟨{}, [{ input := "a", output := some "l/n/x" }, { input := "c", output := some "y" }], ⟨.here, []⟩⟩

def stoppingJob : Job :=
  ⟨"c", some ⟨.here, ["y"]⟩, "UTF-8"⟩

theorem stops_at_first_failure_sample : ∃ k job t u,
    StopsAt stoppingSpec sampleConfig (sampleSession sampleFiles) k job t
      (.read (.missing ⟨.here, ["c"]⟩)) u ∧ ∀ l, u.files.fileAt? l = t.files.fileAt? l := by
  have hjs : (jobs stoppingSpec sampleConfig).Gives (sampleSession sampleFiles)
      [linkedJob, stoppingJob] (sampleSession sampleFiles) := by cbv
  have hstop : (perform sampleConfig ⟨true⟩ stoppingJob).Fails (sampleSession linkedFiles)
      (.read (.missing ⟨.here, ["c"]⟩)) (sampleSession linkedFiles) := by cbv
  have hexecute : (execute stoppingSpec sampleConfig).Fails (sampleSession sampleFiles)
      (.read (.missing ⟨.here, ["c"]⟩)) (sampleSession linkedFiles) :=
    fails_bind_iff.2 (.inr ⟨_, _, hjs, fails_mapM_cons_iff.2 (.inr ⟨_, _, gives_perform_first,
      fails_mapM_cons_iff.2 (.inl hstop)⟩)⟩)
  obtain ⟨k, job, t, hstops, -, -, hspared, -⟩ := stops_at_first_failure (by decide) hjs hexecute
  exact ⟨k, job, t, _, hstops, fun l => (hspared (by simp)).files l (Set.notMem_empty l)⟩

/-- The Markdown of the only job is a lone surrogate. -/
def loneSpec : Spec :=
  ⟨{}, [{ input := "a", output := some "y", charset := some "unicode_escape" }], ⟨.here, []⟩⟩

def loneJob : Job :=
  ⟨"a", some ⟨.here, ["y"]⟩, "unicode_escape"⟩

/-- The source of that job, and an old output. -/
def loneFiles : List (Location × Wikidown.Entry) :=
  [(["a"], .file loneEscape), (["y"], .file [111])]

def emptiedFiles : List (Location × Wikidown.Entry) :=
  [(["a"], .file loneEscape), (["y"], .file [])]

lemma fails_perform_lone : (perform sampleConfig ⟨true⟩ loneJob).Fails (sampleSession loneFiles)
    (.fault (.unencodable ⟨0, 0, 1⟩)) (sampleSession emptiedFiles) := by
  have hconvert : CodeText.convert ⟨true⟩ [.lone 0] = [.lone 0] := by decide +kernel
  have hread : (sourceBytes sampleConfig "a").Gives (sampleSession loneFiles) loneEscape
      (sampleSession loneFiles) := by cbv
  have hdecode : decodeSource loneEscape "unicode_escape" "a" = .ok [.lone 0] :=
    decodeSource_loneEscape
  have hquiet := quiet_sampleSession loneFiles
  have hmarkdown := gives_sourceMarkdown_of_quiet (o := ⟨true⟩) hquiet hread hdecode
  have hwrite : (writeFile [.lone 0] ⟨.here, ["y"]⟩).Fails (sampleSession loneFiles)
      (.fault (.unencodable ⟨0, 0, 1⟩)) (sampleSession emptiedFiles) := by cbv
  rw [hconvert] at hmarkdown
  rw [perform_eq]
  exact fails_bind_iff.2 (.inr ⟨_, _, hmarkdown, fails_bind_iff.2 (.inl hwrite)⟩)

/-- The failing job empties a file that was there before. -/
theorem stops_at_first_failure_emptied : ∃ u,
    (execute loneSpec sampleConfig).Fails (sampleSession loneFiles)
      (.fault (.unencodable ⟨0, 0, 1⟩)) u ∧
    StopsAt loneSpec sampleConfig (sampleSession loneFiles) 0 loneJob (sampleSession loneFiles)
      (.fault (.unencodable ⟨0, 0, 1⟩)) u ∧
    (sampleSession loneFiles).files.fileAt? ["y"] = some [111] ∧ u.files.fileAt? ["y"] = some [] := by
  have hjs : (jobs loneSpec sampleConfig).Gives (sampleSession loneFiles) [loneJob]
      (sampleSession loneFiles) := by cbv
  have hnone : (execute { loneSpec with entries := [] } sampleConfig).Gives (sampleSession loneFiles) []
      (sampleSession loneFiles) := by cbv
  exact ⟨_, fails_bind_iff.2 (.inr ⟨_, _, hjs, fails_mapM_cons_iff.2 (.inl fails_perform_lone)⟩),
    ⟨⟨[], hnone⟩, ⟨_, hjs, rfl⟩, fails_perform_lone⟩, by decide, by decide⟩

/-! ## The order of jobs -/

/-- The result of an entry, if the source of its job holds what it holds in a session. -/
def outcome? (spec : Spec) (c : Config) (s : Session) (entry : Entry) : Option Result :=
  let job : Run Job := do jobOf spec c (← outputDir spec) entry
  (job.run s).1.toOption.bind (resultOf? (options spec c) s)

lemma outcome?_eq {entry : Entry} {job : Job} (hdir : (outputDir spec).Gives s dir s)
    (hjob : (jobOf spec c dir entry).Gives s job s) :
    outcome? spec c s entry = resultOf? (options spec c) s job := by
  have hgives : (outputDir spec >>= fun dir => jobOf spec c dir entry).Gives s job s :=
    gives_bind_iff.2 ⟨dir, s, hdir, hjob⟩
  rw [outcome?, hgives]
  rfl

lemma map_outcome?_eq (hdir : (outputDir spec).Gives s dir s)
    (hjs : HaveJobs spec c dir s entries js) :
    entries.map (outcome? spec c s) = js.map (resultOf? (options spec c) s) := by
  induction hjs with
  | nil => rfl
  | cons hjob _ ih => rw [List.map_cons, List.map_cons, outcome?_eq hdir hjob, ih]

/-- No job of some writes where a job of some reads. -/
def Apart (s : Session) (js : List Job) : Prop :=
  ∀ a ∈ js, ∀ b ∈ js, ∀ p q, a.output = some p → s.Reads b.source q →
    s.files.resolve s.current p ≠ s.files.resolve s.current q

lemma Apart.not_mem_locations (h : Apart s js) :
    ∀ job ∈ js, ∀ q, s.Reads job.source q → s.locationOf q ∉ {l | l ∈ locations s js} := by
  intro b hb q hq hmem
  obtain ⟨a, ha, p, hp, hlocation⟩ := mem_locations_iff.1 hmem
  refine h a ha b hb p q hp hq ?_
  rw [Session.locationOf, Session.locationOf] at hlocation
  simp only [FileTree.resolve, hlocation]

/-- In a batch each entry has the result that it has alone, if the jobs are apart. -/
lemma map_outcome?_of_gives (hs : s.WellFormed) (hjs : (jobs spec c).Gives s js s)
    (hapart : Apart s js) (h : (execute spec c).Gives s rs u) :
    spec.entries.map (outcome? spec c s) = rs.map some := by
  obtain ⟨dir, hdir, hhave, -, -⟩ := gives_jobs_iff.1 hjs
  rw [map_outcome?_eq hdir hhave]
  exact results_of_mapM_perform hs (.refl s) subset_rfl hapart.not_mem_locations
    ((gives_execute_iff hjs).1 h)

/-- An entry has one job only, so in another order the entries have the same jobs. -/
lemma perm_of_gives_jobs (hperm : entries'.Perm spec.entries) (hjs : (jobs spec c).Gives s js s)
    (hjs' : (jobs { spec with entries := entries' } c).Gives s js' s) : js'.Perm js := by
  obtain ⟨dir, hdir, hhave, -, -⟩ := gives_jobs_iff.1 hjs
  obtain ⟨dir', hdir', hhave', -, -⟩ := gives_jobs_iff.1 hjs'
  obtain rfl : dir = dir' := (hdir.unique hdir').1
  have hunique : Relator.RightUnique fun entry job => (jobOf spec c dir entry).Gives s job s :=
    fun _ _ _ hjob hjob' => (hjob.unique hjob').1
  exact List.rel_perm_imp hunique hhave' hhave hperm

/-- If no job writes where a job reads, and the entries are executed with success in two orders, each
entry has the result that it has alone, in both orders, and all files hold the same at the end. -/
theorem order_irrelevant (hs : s.WellFormed) (hperm : entries'.Perm spec.entries)
    (hjs : (jobs spec c).Gives s js s) (hapart : Apart s js)
    (h : (execute spec c).Gives s rs u)
    (h' : (execute { spec with entries := entries' } c).Gives s rs' u') :
    spec.entries.map (outcome? spec c s) = rs.map some ∧
    entries'.map (outcome? spec c s) = rs'.map some ∧
    (∀ r ∈ rs, ∀ p, r.output = some p → u.Stores p r.markdown ∧ u'.Stores p r.markdown) ∧
    ∀ l, u'.files.fileAt? l = u.files.fileAt? l := by
  obtain ⟨js', hjs', -⟩ := gives_execute h'
  have hjobs : js'.Perm js := perm_of_gives_jobs hperm hjs hjs'
  have hlocations : (locations s js').Perm (locations s js) := hjobs.filterMap _
  have hapart' : Apart s js' := fun a ha b hb => hapart a (hjobs.subset ha) b (hjobs.subset hb)
  have hrs := map_outcome?_of_gives hs hjs hapart h
  have hrs' := map_outcome?_of_gives hs hjs' hapart' h'
  have hresults : rs'.Perm rs := by
    rw [← List.map_perm_map_iff (Option.some_injective Result), ← hrs, ← hrs']
    exact hperm.map _
  obtain ⟨hu, hout⟩ := executed_of_gives hs hjs h
  obtain ⟨hu', hout'⟩ := executed_of_gives hs hjs' h'
  refine ⟨hrs, hrs', fun r hr p hp => ⟨hout r hr p hp, ?_⟩, fun l => ?_⟩
  · exact hout' r (hresults.mem_iff.2 hr) p hp
  · by_cases hl : l ∈ locations s js
    · obtain ⟨r, hr, p, hp, rfl, -⟩ := exists_result_of_mem_locations hs hjs h hl
      obtain ⟨text, htext, hlook⟩ := hout r hr p hp
      obtain ⟨text', htext', hlook'⟩ := hout' r (hresults.mem_iff.2 hr) p hp
      obtain rfl := CodeText.ofText_inj.1 (htext.symm.trans htext')
      rw [hu.fileAt?_of_look hlook, hu'.fileAt?_of_look hlook']
    · rw [hu.files.fileAt?_eq hl, hu'.files.fileAt?_eq fun hl' => hl (hlocations.subset hl')]

/-- What is written in the small batch is none of its sources. -/
lemma apart_sample : Apart (sampleSession sampleFiles) [linkedJob, plainJob] := by
  have houtput : ∀ a ∈ [linkedJob, plainJob], ∀ p, a.output = some p →
      (sampleSession sampleFiles).files.resolve [] p ∈
        [.ok ⟨.root, ["d", "n", "x"]⟩, .ok ⟨.root, ["y"]⟩] := by
    intro a ha p hp
    rcases List.mem_pair.1 ha with rfl | rfl
    · obtain rfl := Option.some.inj hp
      exact List.mem_pair.2 (.inl (by cbv))
    · obtain rfl := Option.some.inj hp
      exact List.mem_pair.2 (.inr (by cbv))
  have hsource : ∀ b ∈ [linkedJob, plainJob], ∀ q, (sampleSession sampleFiles).Reads b.source q →
      (sampleSession sampleFiles).files.resolve [] q ∈
        [.ok ⟨.root, ["a"]⟩, .ok ⟨.root, ["b"]⟩] := by
    have hname {name : String} {q : Path} (hq : (sampleSession sampleFiles).Reads name q)
        (h : (Run.expandHome (Path.ofString name)).Gives (sampleSession sampleFiles) ⟨.here, [name]⟩
          (sampleSession sampleFiles)) : q = ⟨.here, [name]⟩ := (h.unique hq.2).1.symm
    intro b hb q hq
    rcases List.mem_pair.1 hb with rfl | rfl
    · rw [hname hq (by cbv)]
      exact List.mem_pair.2 (.inl (by cbv))
    · rw [hname hq (by cbv)]
      exact List.mem_pair.2 (.inr (by cbv))
  intro a ha b hb p q hp hq heq
  have hmem := houtput a ha p hp
  change (sampleSession sampleFiles).files.resolve [] p =
    (sampleSession sampleFiles).files.resolve [] q at heq
  rw [heq] at hmem
  have hmem' := hsource b hb q hq
  rcases List.mem_pair.1 hmem with h | h <;> rw [h] at hmem' <;> simp at hmem'

theorem order_irrelevant_sample : ∃ rs' u', (execute { sampleSpec with
    entries := sampleSpec.entries.reverse } sampleConfig).Gives (sampleSession sampleFiles) rs' u' ∧
      ∀ l, u'.files.fileAt? l = (sampleSession writtenFiles).files.fileAt? l := by
  have hjs : (jobs { sampleSpec with entries := sampleSpec.entries.reverse } sampleConfig).Gives
      (sampleSession sampleFiles) [plainJob, linkedJob] (sampleSession sampleFiles) := by cbv
  have hfirst : (perform sampleConfig ⟨true⟩ plainJob).Gives (sampleSession sampleFiles) plainResult
      (sampleSession plainFiles) := gives_perform_plain (by cbv) (by cbv)
  have hsecond : (perform sampleConfig ⟨true⟩ linkedJob).Gives (sampleSession plainFiles) linkedResult
      (sampleSession writtenFiles) := gives_perform_linked (by cbv) (by cbv)
  have hrest : ([linkedJob].mapM (perform sampleConfig ⟨true⟩)).Gives (sampleSession plainFiles)
      [linkedResult] (sampleSession writtenFiles) :=
    gives_mapM_cons_iff.2 ⟨_, [], _, hsecond, by simp, rfl⟩
  have hexecute : (execute { sampleSpec with entries := sampleSpec.entries.reverse }
      sampleConfig).Gives (sampleSession sampleFiles) [plainResult, linkedResult]
      (sampleSession writtenFiles) := gives_bind_iff.2 ⟨_, _, hjs,
    gives_mapM_cons_iff.2 ⟨_, _, _, hfirst, hrest, rfl⟩⟩
  obtain ⟨-, -, -, hfiles⟩ := order_irrelevant (by decide) sampleSpec.entries.reverse_perm
    gives_jobs_sample apart_sample gives_execute_sample hexecute
  exact ⟨_, _, hexecute, hfiles⟩

end Batch

end Wikidown
