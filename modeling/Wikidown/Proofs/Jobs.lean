import Wikidown.Batch.Job
import Wikidown.Proofs.Contents
import Wikidown.Proofs.Sources

/-!
# Jobs

To make the jobs of a batch, the session is only looked at (`Batch.keeps_jobs`), and what its files and
remote objects hold is not even seen (`Batch.ignores_jobs`). A property of the base directory that is
passed on as paths are joined and outputs are derived is a property of all outputs (`Batch.Inherited`). A
batch has the jobs of its entries just if their outputs can be resolved and lead to different locations
(`Batch.gives_jobs_iff`); two outputs that lead to the same location are a failure of the specification
(`Batch.fails_jobs_iff`).
-/

namespace Wikidown

/-- A session in which files and remote objects hold something else. -/
def Session.refill (contents : Location → Bytes)
    (objects : Option (List ((String × String) × Bytes))) (s : Session) : Session :=
  { s with files := s.files.refill contents, objects := objects }

namespace Run

variable {γ : Type} {v : Session → γ} {s s' : Session} {p r : Path} {contents : Location → Bytes}
variable {objects : Option (List ((String × String) × Bytes))}

lemma keeps_resolve : (resolve p).Keeps v Failure.Ordinary := by
  refine keeps_guard (by simp [Failure.Ordinary]) (keeps_get.bind fun s => ?_)
  split
  · exact keeps_pure
  · exact keeps_throw (by simp [Failure.Ordinary])

/-- A path is resolved to that of its location. -/
lemma gives_resolve (h : (resolve p).Gives s r s') : s.files.resolve s.current p = .ok r := by
  obtain ⟨-, hget⟩ := gives_guard_iff.1 h
  obtain ⟨t, t', ht, hr⟩ := gives_bind_iff.1 hget
  obtain ⟨rfl, rfl⟩ := gives_get_iff.1 ht
  split at hr
  · rw [← (gives_pure_iff.1 hr).1]
    assumption
  · exact absurd hr not_gives_throw

lemma eq_of_gives_resolve (h : (resolve p).Gives s r s') :
    r = FileTree.pathOf (s.locationOf p) := by
  have hr := gives_resolve h
  rw [FileTree.resolve] at hr
  split at hr
  · exact absurd hr (by simp)
  · exact (Except.ok.inj hr).symm

lemma ignores_resolve : (resolve p).Ignores (Session.refill contents objects) := by
  refine ignores_guard (ignores_get_bind (fun s => ?_) fun s => ?_)
  · simp only [Session.refill, FileTree.resolve_refill]
  · split
    · exact ignores_pure
    · exact ignores_throw

end Run

namespace Batch

open Run

variable {γ : Type} {v : Session → γ} {g : Session → Session} {contents : Location → Bytes}
variable {objects : Option (List ((String × String) × Bytes))} {spec : Spec} {c : Config}
variable {dir : Option Path} {base : Path} {entry : Entry} {written : String} {job : Job}

/-! ## What is looked at -/

lemma keeps_localPath : (localPath base written).Keeps v Failure.Ordinary :=
  keeps_expandHome.bind fun _ => keeps_pure

lemma keeps_outputDir : (outputDir spec).Keeps v Failure.Ordinary := by
  rw [outputDir]
  split
  · exact keeps_pure
  · exact keeps_localPath.bind fun _ => keeps_pure

lemma stemOf_ordinary {input : String} {e : Failure} (h : stemOf input = .error e) : e.Ordinary := by
  rw [stemOf] at h
  split_ifs at h
  cases hparse : Address.parse input with
  | ok a => simp [hparse, Except.map] at h
  | error e' =>
    rw [hparse] at h
    obtain rfl := Except.error.inj h
    exact (Address.parse_inReading hparse).ordinary

lemma keeps_outputOf : (outputOf base dir entry).Keeps v Failure.Ordinary := by
  unfold outputOf
  split
  · exact keeps_localPath.bind fun _ => keeps_pure
  · exact keeps_pure
  · exact (keeps_ofExcept fun _ => stemOf_ordinary).bind fun _ => keeps_pure

lemma keeps_sourceOf {input : String} : (sourceOf base input).Keeps v Failure.Ordinary :=
  keeps_pure.ite (keeps_localPath.bind fun _ => keeps_pure)

lemma keeps_jobOf : (jobOf spec c dir entry).Keeps v Failure.Ordinary :=
  keeps_sourceOf.bind fun _ => keeps_outputOf.bind fun _ => keeps_pure

/-- No more than the variables and the accounts of a session is seen as a job is made. -/
lemma ignores_localPath (hg : Session.KeepsHomes g) : (localPath base written).Ignores g :=
  (ignores_expandHome hg).bind fun _ => ignores_pure

lemma ignores_outputDir (hg : Session.KeepsHomes g) : (outputDir spec).Ignores g := by
  rw [outputDir]
  split
  · exact ignores_pure
  · exact (ignores_localPath hg).bind fun _ => ignores_pure

lemma ignores_jobOf (hg : Session.KeepsHomes g) : (jobOf spec c dir entry).Ignores g := by
  have hsource : (sourceOf spec.base entry.input).Ignores g :=
    ignores_pure.ite ((ignores_localPath hg).bind fun _ => ignores_pure)
  have houtput : (outputOf spec.base dir entry).Ignores g := by
    unfold outputOf
    split
    · exact (ignores_localPath hg).bind fun _ => ignores_pure
    · exact ignores_pure
    · exact (ignores_ofExcept _).bind fun _ => ignores_pure
  exact hsource.bind fun _ => houtput.bind fun _ => ignores_pure

lemma keeps_reserve {reserved : List (Path × String)} :
    (reserve reserved job).Keeps v fun _ => True := by
  rw [reserve]
  split
  · exact keeps_pure
  · refine (keeps_resolve.mono fun _ _ => trivial).bind fun r => ?_
    split
    · exact keeps_throw trivial
    · exact keeps_pure

/-! ## What paths have from the base directory -/

section Inherited

variable {P : Path → Prop} {s s' : Session} {output : Option Path} {js : List Job}

/-- What all paths of a batch have, if its base directory has it. -/
structure Inherited (P : Path → Prop) : Prop where
  localPath : ∀ {base q : Path} {written : String} {s s' : Session}, P base →
    (Batch.localPath base written).Gives s q s' → P q
  derived : ∀ {dir : Path} {input stem : String}, P dir → stemOf input = .ok stem →
    P (dir.append [stem ++ suffix])

lemma inherited_true : Inherited fun _ => True :=
  ⟨fun _ _ => trivial, fun _ _ => trivial⟩

/-- The three parts of a job that is made. -/
lemma gives_jobOf (h : (jobOf spec c dir entry).Gives s job s') :
    (sourceOf spec.base entry.input).Gives s job.source s ∧
      (outputOf spec.base dir entry).Gives s job.output s ∧
      job.charset = (entry.charset <|> spec.defaults.charset).getD c.charset := by
  obtain ⟨source, t, hsource, hafter⟩ := gives_bind_iff.1 h
  obtain rfl : t = s := (keeps_sourceOf (v := id)).of_gives hsource
  obtain ⟨output, t', houtput, hjob⟩ := gives_bind_iff.1 hafter
  obtain rfl : t' = t := (keeps_outputOf (v := id)).of_gives houtput
  obtain ⟨rfl, -⟩ := gives_pure_iff.1 hjob
  exact ⟨hsource, houtput, rfl⟩

namespace Inherited

variable (hP : Inherited P)
include hP

lemma outputDir (hbase : P spec.base) (h : (outputDir spec).Gives s dir s') : ∀ d ∈ dir, P d := by
  rw [Batch.outputDir] at h
  split at h
  · rw [← (gives_pure_iff.1 h).1]
    simp
  · obtain ⟨d, t, hd, hdir⟩ := gives_bind_iff.1 h
    rw [← (gives_pure_iff.1 hdir).1]
    rintro _ ⟨⟩
    exact hP.localPath hbase hd

lemma outputOf (hbase : P base) (hdir : ∀ d ∈ dir, P d)
    (h : (outputOf base dir entry).Gives s output s') : ∀ p ∈ output, P p := by
  obtain ⟨input, written, charset⟩ := entry
  cases written with
  | some written =>
    have hseen : P (dir.getD base) := by
      cases dir with
      | none => exact hbase
      | some d => exact hdir d rfl
    obtain ⟨p, t, hp, houtput⟩ := gives_bind_iff.1 h
    rw [← (gives_pure_iff.1 houtput).1]
    rintro _ ⟨⟩
    exact hP.localPath hseen hp
  | none =>
    cases dir with
    | none =>
      rw [← (gives_pure_iff.1 h).1]
      simp
    | some d =>
      obtain ⟨stem, t, hstem, houtput⟩ := gives_bind_iff.1 h
      rw [← (gives_pure_iff.1 houtput).1]
      rintro _ ⟨⟩
      exact hP.derived (hdir d rfl) (gives_ofExcept_iff.1 hstem).1

/-- A change of the session is not seen as jobs are made, if it is not seen as their outputs are
resolved. -/
lemma ignores_jobs (hbase : P spec.base) (hg : Session.KeepsHomes g)
    (hresolve : ∀ p, P p → (resolve p).Ignores g) : (jobs spec c).Ignores g := by
  have hreserve {job : Job} (hjob : ∀ p ∈ job.output, P p) (reserved : List (Path × String)) :
      (reserve reserved job).Ignores g := by
    rw [reserve]
    split
    · exact ignores_pure
    · rename_i p hp
      refine (hresolve p (hjob p hp)).bind fun r => ?_
      split
      · exact ignores_throw
      · exact ignores_pure
  have hfrom {dir : Option Path} (hdir : ∀ d ∈ dir, P d) (entries : List Entry)
      (reserved : List (Path × String)) : (jobsFrom spec c dir entries reserved).Ignores g := by
    induction entries generalizing reserved with
    | nil => exact ignores_pure
    | cons entry entries ih =>
      refine (ignores_jobOf hg).bind_of_gives fun hjob => ?_
      have houtput := hP.outputOf hbase hdir (gives_jobOf hjob).2.1
      exact (hreserve houtput _).bind fun _ => (ih _).bind fun _ => ignores_pure
  exact (ignores_outputDir hg).bind_of_gives fun hdir => hfrom (hP.outputDir hbase hdir) _ _

end Inherited

lemma ignores_jobs : (jobs spec c).Ignores (Session.refill contents objects) :=
  inherited_true.ignores_jobs trivial {} fun _ _ => ignores_resolve

end Inherited

/-! ## Reserved outputs -/

variable {s s' : Session} {entries : List Entry} {js : List Job} {reserved : List (Path × String)}
variable {p r : Path} {e : Failure}

/-- In a session, the jobs that entries have. -/
def HaveJobs (spec : Spec) (c : Config) (dir : Option Path) (s : Session) :
    List Entry → List Job → Prop :=
  List.Forall₂ fun entry job => (jobOf spec c dir entry).Gives s job s

/-- In a session, the outputs of jobs can be resolved. -/
def Resolvable (s : Session) (js : List Job) : Prop :=
  ∀ job ∈ js, ∀ p, job.output = some p → ∃ r, (Run.resolve p).Gives s r s

/-- The locations that the outputs of jobs lead to. -/
def locations (s : Session) (js : List Job) : List Location :=
  js.filterMap fun job => job.output.map s.locationOf

lemma locations_cons_none (h : job.output = none) :
    locations s (job :: js) = locations s js := by
  simp [locations, h]

lemma locations_cons_some (h : job.output = some p) :
    locations s (job :: js) = s.locationOf p :: locations s js := by
  simp [locations, h]

lemma mem_locations_iff {l : Location} :
    l ∈ locations s js ↔ ∃ job ∈ js, ∃ p, job.output = some p ∧ s.locationOf p = l := by
  simp [locations]

/-- The locations of outputs differ from each other, and from those that were reserved before. -/
def Free (s : Session) (reserved : List (Path × String)) (js : List Job) : Prop :=
  (locations s js).Nodup ∧ ∀ l ∈ locations s js, reserved.lookup (FileTree.pathOf l) = none

lemma free_nil : Free s [] js ↔ (locations s js).Nodup := by
  simp [Free]

lemma free_cons_none (h : job.output = none) :
    Free s reserved (job :: js) ↔ Free s reserved js := by
  rw [Free, Free, locations_cons_none h]

lemma free_cons_some (h : job.output = some p) : Free s reserved (job :: js) ↔
    reserved.lookup (FileTree.pathOf (s.locationOf p)) = none ∧
      Free s ((FileTree.pathOf (s.locationOf p), job.source) :: reserved) js := by
  have hlookup (l : Location) :
      ((FileTree.pathOf (s.locationOf p), job.source) :: reserved).lookup (FileTree.pathOf l) = none ↔
        l ≠ s.locationOf p ∧ reserved.lookup (FileTree.pathOf l) = none := by
    by_cases hl : l = s.locationOf p
    · simp [hl]
    · have hbeq : (FileTree.pathOf l == FileTree.pathOf (s.locationOf p)) = false := by
        simpa [FileTree.pathOf] using hl
      simp [List.lookup_cons, hbeq, hl]
  simp only [Free, locations_cons_some h, List.nodup_cons, List.forall_mem_cons, hlookup]
  constructor
  · rintro ⟨⟨hp, hnodup⟩, hfirst, hrest⟩
    exact ⟨hfirst, hnodup, fun l hl => ⟨fun heq => hp (heq ▸ hl), hrest l hl⟩⟩
  · rintro ⟨hfirst, hnodup, hrest⟩
    exact ⟨⟨fun hp => (hrest _ hp).1 rfl, hnodup⟩, hfirst, fun l hl => (hrest l hl).2⟩

lemma gives_reserve_none (h : job.output = none) : (reserve reserved job).Gives s reserved s := by
  simp [reserve, h]

/-- A path that was not reserved before is reserved by a job. -/
lemma gives_reserve (h : job.output = some p) (hr : (Run.resolve p).Gives s r s)
    (hfree : reserved.lookup r = none) :
    (reserve reserved job).Gives s ((r, job.source) :: reserved) s := by
  simp only [reserve, h]
  exact gives_bind_iff.2 ⟨r, s, hr, by simp [hfree]⟩

/-- A path that was reserved before is refused. -/
lemma fails_reserve (h : job.output = some p) (hr : (Run.resolve p).Gives s r s)
    (hfree : reserved.lookup r ≠ none) : ∃ e, (reserve reserved job).Fails s (.spec e) s := by
  obtain ⟨first, hfirst⟩ := Option.ne_none_iff_exists'.1 hfree
  refine ⟨.collision first job.source p, ?_⟩
  simp only [reserve, h]
  exact fails_bind_iff.2 (.inr ⟨r, s, hr, by simp [hfirst]⟩)

lemma resolves_of_gives_reserve {reserved' : List (Path × String)}
    (h : (reserve reserved job).Gives s reserved' s') (hp : job.output = some p) :
    ∃ r, (Run.resolve p).Gives s r s := by
  simp only [reserve, hp] at h
  obtain ⟨r, t, hr, -⟩ := gives_bind_iff.1 h
  obtain rfl : t = s := keeps_resolve.of_gives (v := id) hr
  exact ⟨r, hr⟩

/-! ## Jobs of entries -/

lemma jobsFrom_cons : jobsFrom spec c dir (entry :: entries) reserved =
    jobOf spec c dir entry >>= fun job => reserve reserved job >>= fun reserved =>
      jobsFrom spec c dir entries reserved >>= fun js => pure (job :: js) := by
  rw [jobsFrom]

/-- What an entry and those behind it do, if its output can be reserved. -/
lemma gives_jobsFrom_cons {reserved' : List (Path × String)}
    (hjob : (jobOf spec c dir entry).Gives s job s)
    (hreserve : (reserve reserved job).Gives s reserved' s)
    (hjs : (jobsFrom spec c dir entries reserved').Gives s js s) :
    (jobsFrom spec c dir (entry :: entries) reserved).Gives s (job :: js) s := by
  rw [jobsFrom_cons]
  exact gives_bind_iff.2 ⟨job, s, hjob, gives_bind_iff.2 ⟨reserved', s, hreserve,
    gives_bind_iff.2 ⟨js, s, hjs, gives_pure_iff.2 ⟨rfl, rfl⟩⟩⟩⟩

lemma fails_jobsFrom_cons {reserved' : List (Path × String)}
    (hjob : (jobOf spec c dir entry).Gives s job s)
    (hreserve : (reserve reserved job).Gives s reserved' s)
    (hjs : (jobsFrom spec c dir entries reserved').Fails s e s) :
    (jobsFrom spec c dir (entry :: entries) reserved).Fails s e s := by
  rw [jobsFrom_cons]
  exact fails_bind_iff.2 (.inr ⟨job, s, hjob, fails_bind_iff.2 (.inr ⟨reserved', s, hreserve,
    fails_bind_iff.2 (.inl hjs)⟩)⟩)

/-- The jobs of entries are made if the outputs are free. -/
lemma gives_jobsFrom (hjs : HaveJobs spec c dir s entries js) (hresolves : Resolvable s js)
    (hfree : Free s reserved js) : (jobsFrom spec c dir entries reserved).Gives s js s := by
  induction hjs generalizing reserved with
  | nil => exact gives_pure_iff.2 ⟨rfl, rfl⟩
  | @cons entry job entries js hjob _ ih =>
    obtain ⟨hfirst, hothers⟩ := List.forall_mem_cons.1 hresolves
    cases hp : job.output with
    | none =>
      rw [free_cons_none hp] at hfree
      exact gives_jobsFrom_cons hjob (gives_reserve_none hp) (ih hothers hfree)
    | some p =>
      obtain ⟨r, hr⟩ := hfirst p hp
      obtain rfl := eq_of_gives_resolve hr
      obtain ⟨hunused, hfree⟩ := (free_cons_some hp).1 hfree
      exact gives_jobsFrom_cons hjob (gives_reserve hp hr hunused) (ih hothers hfree)

/-- If the outputs are not free, to make the jobs fails about the specification. -/
lemma fails_jobsFrom (hjs : HaveJobs spec c dir s entries js) (hresolves : Resolvable s js)
    (hfree : ¬ Free s reserved js) :
    ∃ e, (jobsFrom spec c dir entries reserved).Fails s (.spec e) s := by
  induction hjs generalizing reserved with
  | nil => exact absurd (by simp [Free, locations]) hfree
  | @cons entry job entries js hjob _ ih =>
    obtain ⟨hfirst, hothers⟩ := List.forall_mem_cons.1 hresolves
    cases hp : job.output with
    | none =>
      obtain ⟨e, he⟩ := ih hothers (mt (free_cons_none hp).2 hfree)
      exact ⟨e, fails_jobsFrom_cons hjob (gives_reserve_none hp) he⟩
    | some p =>
      obtain ⟨r, hr⟩ := hfirst p hp
      obtain rfl := eq_of_gives_resolve hr
      rw [free_cons_some hp, not_and] at hfree
      by_cases hunused : reserved.lookup (FileTree.pathOf (s.locationOf p)) = none
      · obtain ⟨e, he⟩ := ih hothers (hfree hunused)
        exact ⟨e, fails_jobsFrom_cons hjob (gives_reserve hp hr hunused) he⟩
      · obtain ⟨e, he⟩ := fails_reserve hp hr hunused
        rw [jobsFrom_cons]
        exact ⟨e, fails_bind_iff.2 (.inr ⟨job, s, hjob, fails_bind_iff.2 (.inl he)⟩)⟩

lemma haveJobs_of_gives (h : (jobsFrom spec c dir entries reserved).Gives s js s') :
    HaveJobs spec c dir s entries js ∧ Resolvable s js := by
  induction entries generalizing reserved js with
  | nil =>
    obtain ⟨rfl, -⟩ := gives_pure_iff.1 h
    exact ⟨.nil, by simp [Resolvable]⟩
  | cons entry entries ih =>
    rw [jobsFrom_cons] at h
    obtain ⟨job, t, hjob, hafter⟩ := gives_bind_iff.1 h
    obtain rfl : t = s := keeps_jobOf.of_gives (v := id) hjob
    obtain ⟨reserved', t', hreserve, hothers⟩ := gives_bind_iff.1 hafter
    obtain rfl : t' = t := keeps_reserve.of_gives (v := id) hreserve
    obtain ⟨js', t, hjs, hall⟩ := gives_bind_iff.1 hothers
    obtain ⟨rfl, rfl⟩ := gives_pure_iff.1 hall
    obtain ⟨hothers, hresolves⟩ := ih hjs
    refine ⟨.cons hjob hothers, List.forall_mem_cons.2 ⟨fun p hp => ?_, hresolves⟩⟩
    exact resolves_of_gives_reserve hreserve hp

/-! ## Jobs of a batch -/

lemma keeps_jobs : (jobs spec c).Keeps v fun _ => True := by
  have hfrom (dir : Option Path) (entries : List Entry) (reserved : List (Path × String)) :
      (jobsFrom spec c dir entries reserved).Keeps v fun _ => True := by
    induction entries generalizing reserved with
    | nil => exact keeps_pure
    | cons entry entries ih =>
      exact (keeps_jobOf.mono fun _ _ => trivial).bind fun _ =>
        keeps_reserve.bind fun _ => (ih _).bind fun _ => keeps_pure
  exact (keeps_outputDir.mono fun _ _ => trivial).bind fun _ => hfrom _ _ _

/-- A batch has the jobs of its entries, just if the outputs lead to different locations. -/
lemma gives_jobs_iff : (jobs spec c).Gives s js s ↔ ∃ dir, (outputDir spec).Gives s dir s ∧
    HaveJobs spec c dir s spec.entries js ∧ Resolvable s js ∧ (locations s js).Nodup := by
  constructor
  · intro h
    obtain ⟨dir, t, hdir, hmade⟩ := gives_bind_iff.1 h
    obtain rfl : t = s := keeps_outputDir.of_gives (v := id) hdir
    obtain ⟨hjs, hresolves⟩ := haveJobs_of_gives hmade
    refine ⟨dir, hdir, hjs, hresolves, ?_⟩
    by_contra hnodup
    obtain ⟨e, he⟩ := fails_jobsFrom hjs hresolves (mt free_nil.1 hnodup)
    exact hmade.not_fails he
  · rintro ⟨dir, hdir, hjs, hresolves, hnodup⟩
    exact gives_bind_iff.2 ⟨dir, s, hdir, gives_jobsFrom hjs hresolves (free_nil.2 hnodup)⟩

/-- If all entries have jobs, to make them fails about the specification just if two outputs lead to the
same location. -/
lemma fails_jobs_iff (hdir : (outputDir spec).Gives s dir s)
    (hjs : HaveJobs spec c dir s spec.entries js) (hresolves : Resolvable s js) :
    (∃ e, (jobs spec c).Fails s (.spec e) s) ↔ ¬ (locations s js).Nodup := by
  constructor
  · rintro ⟨e, he⟩ hnodup
    exact (gives_jobs_iff.2 ⟨dir, hdir, hjs, hresolves, hnodup⟩).not_fails he
  · intro hnodup
    obtain ⟨e, he⟩ := fails_jobsFrom hjs hresolves (mt free_nil.1 hnodup)
    exact ⟨e, fails_bind_iff.2 (.inr ⟨dir, s, hdir, he⟩)⟩

end Batch

end Wikidown
