import Mathlib.Data.List.DropRight
import Wikidown.Proofs.AbsolutePaths
import Wikidown.Proofs.Loading

/-!
# Settled jobs

The jobs of a batch do not depend on the directory in which they are made, if the batch was loaded from
an absolute path or from the home directory (`Session.FromRoot`). Its base directory is absolute then,
and so is whatever is seen from there: the output directory, the outputs, and the sources that are not
remote (`Batch.Settled`). So the same jobs are made everywhere, or the same failure is met
(`Batch.jobs_anywhere`).
-/

namespace Wikidown

namespace Run

variable {d : String}

/-- Without the slashes at its end, a directory still begins at the root, or nothing is left of it. -/
lemma head?_withoutSlashes (hd : d.toList.head? = some '/') (hne : withoutSlashes d ≠ "") :
    (withoutSlashes d).toList.head? = some '/' := by
  have hprefix : (withoutSlashes d).toList <+: d.toList := by
    rw [withoutSlashes, String.toList_ofList]
    exact List.rdropWhile_prefix _ _
  obtain ⟨rest, hrest⟩ := hprefix
  have hleft : (withoutSlashes d).toList ≠ [] := by simpa using hne
  rwa [← hrest, List.head?_append_of_ne_nil _ hleft] at hd

/-- If the variable for it holds an absolute path, the home directory is absolute. -/
lemma gives_home {s : Session} (hhome : s.environment.lookup "HOME" = some d)
    (hd : (Path.ofString d).isAbsolute = true) :
    ∃ home', (home "~").Gives s home' s ∧ (Path.ofString home').isAbsolute = true := by
  rw [Path.isAbsolute_ofString_iff] at hd
  have hrooted : (if withoutSlashes d = "" then "/" else withoutSlashes d).toList.head? = some '/' := by
    split_ifs with hempty
    · decide
    · exact head?_withoutSlashes hd hempty
  have htilde : (if withoutSlashes d = "" then "/" else withoutSlashes d).startsWith "~" = false := by
    rw [Bool.eq_false_iff, Ne, String.startsWith_string_iff]
    rintro ⟨rest, hrest⟩
    rw [← hrest] at hrooted
    simp at hrooted
  refine ⟨_, gives_guard_iff.2 ⟨by simp, gives_get_bind_iff.2 ?_⟩,
    Path.isAbsolute_ofString_iff.2 hrooted⟩
  simp [hhome, htilde]

end Run

namespace Session

variable {s : Session} {written d : String} {names : List String}

/-- A path, as it is written, begins at the root once the home directory is in its place. -/
def FromRoot (s : Session) (written : String) : Prop :=
  ∃ p, (Run.expandHome (Path.ofString written)).Gives s p s ∧ p.isAbsolute = true

/-- So does a path in the home directory, if the variable for it holds an absolute path. -/
lemma fromRoot_of_home (hwritten : Path.ofString written = ⟨.here, "~" :: names⟩)
    (hhome : s.environment.lookup "HOME" = some d) (hd : (Path.ofString d).isAbsolute = true) :
    s.FromRoot written := by
  obtain ⟨home', hgives, habs⟩ := Run.gives_home hhome hd
  refine ⟨(Path.ofString home').append names, ?_, habs⟩
  rw [hwritten, Run.expandHome]
  dsimp only
  rw [if_pos (by decide +kernel)]
  exact Run.gives_bind_iff.2 ⟨home', s, hgives, Run.gives_pure_iff.2 ⟨rfl, rfl⟩⟩

end Session

namespace Batch

open Run

variable {spec : Spec} {c : Config} {base : Path} {entry : Entry} {job : Job}
variable {s s' : Session} {input source file : String} {l : Location}

/-- What a job is, wherever it is made: its source and its output are absolute, and its encoding is the
one of its entry, or else that of the defaults, or else that of the settings. -/
structure Settled (spec : Spec) (c : Config) (entry : Entry) (job : Job) : Prop where
  source : Address.isRemote job.source = false → (Path.ofString job.source).isAbsolute = true
  output : ∀ p ∈ job.output, p.isAbsolute = true
  ownCharset : ∀ charset ∈ entry.charset, job.charset = charset
  defaultCharset : entry.charset = none → ∀ charset ∈ spec.defaults.charset, job.charset = charset
  settingCharset : entry.charset = none → spec.defaults.charset = none → job.charset = c.charset

/-! ## What is absolute -/

lemma inherited_isAbsolute : Inherited fun p => p.isAbsolute = true where
  localPath hbase h := by
    obtain ⟨p, t, -, hq⟩ := gives_bind_iff.1 h
    rw [← (gives_pure_iff.1 hq).1]
    exact Path.isAbsolute_join hbase
  derived hdir _ := hdir

lemma isAbsolute_of_gives_sourceOf (hbase : base.isAbsolute = true)
    (h : (sourceOf base input).Gives s source s') (hlocal : Address.isRemote source = false) :
    (Path.ofString source).isAbsolute = true := by
  rw [sourceOf] at h
  split_ifs at h with hremote
  · obtain ⟨rfl, -⟩ := gives_pure_iff.1 h
    exact absurd hremote (by simp [hlocal])
  · obtain ⟨p, t, hp, hsource⟩ := gives_bind_iff.1 h
    obtain ⟨rfl, -⟩ := gives_pure_iff.1 hsource
    exact Path.isAbsolute_ofString_toString (inherited_isAbsolute.localPath hbase hp)

lemma isAbsolute_base (h : (loadSpec file).Gives s spec s') : spec.base.isAbsolute = true := by
  obtain ⟨p, v, -, hbase, -⟩ := gives_loadSpec h
  rw [hbase, Path.isAbsolute_parent]
  rfl

/-- The jobs of a batch are settled if its base directory is absolute. -/
lemma settled_of_gives_jobOf {dir : Option Path} (hbase : spec.base.isAbsolute = true)
    (hdir : ∀ d ∈ dir, d.isAbsolute = true) (h : (jobOf spec c dir entry).Gives s job s') :
    Settled spec c entry job := by
  obtain ⟨hsource, houtput, hcharset⟩ := gives_jobOf h
  refine ⟨isAbsolute_of_gives_sourceOf hbase hsource,
    inherited_isAbsolute.outputOf hbase hdir houtput, fun charset hown => ?_,
    fun hnone charset hdefault => ?_, fun hnone hdefault => ?_⟩
  · simp [hcharset, Option.mem_def.1 hown]
  · simp [hcharset, hnone, Option.mem_def.1 hdefault]
  · simp [hcharset, hnone, hdefault]

/-! ## From another directory -/

/-- A batch is found from every directory along a path that begins at the root. -/
lemma gives_loadSpec_moved (hfile : s.FromRoot file) (h : (loadSpec file).Gives s spec s') :
    (loadSpec file).Gives (s.moved l) spec (s'.moved l) := by
  obtain ⟨p, hp, habs⟩ := hfile
  obtain ⟨p', t, hp', hload⟩ := gives_bind_iff.1 h
  obtain ⟨rfl, rfl⟩ := hp.unique hp'
  refine gives_bind_iff.2 ⟨p, _, (ignores_expandHome {}).gives hp, ?_⟩
  refine Ignores.gives (.bind_of_gives (resolve_moved habs) fun hr => ?_) hload
  refine ignores_get_bind (fun _ => rfl) fun _ => ?_
  -- the resolved path is absolute, whatever was resolved
  refine (readSpec_moved (by rw [eq_of_gives_resolve hr]; rfl)).bind fun content => ?_
  exact (ignores_ofExcept _).bind fun v => ignores_ofExcept _

/-- If a batch is loaded from a path that begins at the root, then from every other directory the same
batch is loaded, and the same jobs are made, or the same failure is met. All jobs are settled. -/
theorem jobs_anywhere (hfile : s.FromRoot file) (hspec : (loadSpec file).Gives s spec s) (c : Config)
    (l : Location) : (loadSpec file).Gives (s.moved l) spec (s.moved l) ∧
      ((jobs spec c).run (s.moved l)).1 = ((jobs spec c).run s).1 ∧
      ∀ js, (jobs spec c).Gives s js s → List.Forall₂ (Settled spec c) spec.entries js := by
  have hbase := isAbsolute_base hspec
  refine ⟨gives_loadSpec_moved hfile hspec, ?_, fun js hjs => ?_⟩
  · exact (inherited_isAbsolute.ignores_jobs hbase {} fun _ => resolve_moved).result_eq s
  · obtain ⟨dir, hdir, hhave, -, -⟩ := gives_jobs_iff.1 hjs
    exact hhave.imp fun entry job hjob =>
      settled_of_gives_jobOf hbase (inherited_isAbsolute.outputDir hbase hdir) hjob

/-- A batch in which paths are written in all ways. -/
def mixedText : Text :=
  "version: 1\ndefaults: \x7boutput_dir: ../o\x7d\njobs:\n- a\n".toList ++
    "- \x7binput: ~/n/b, output: x\x7d\n- \x7binput: 's3://b/k/c', output: /d/c\x7d\n".toList

def mixedSpec : Spec :=
  ⟨{ outputDir := some "../o" }, [{ input := "a" }, { input := "~/n/b", output := some "x" },
    { input := "s3://b/k/c", output := some "/d/c" }], ⟨.root, ["d", "e"]⟩⟩

def mixedConfig : Config :=
  ⟨"latin1", false, .warning, none, none⟩

def mixedJobs : List Job :=
  [⟨"/d/e/a", some ⟨.root, ["d", "e", "..", "o", "a.md"]⟩, "latin1"⟩,
    ⟨"/d/n/b", some ⟨.root, ["d", "e", "..", "o", "x"]⟩, "latin1"⟩,
    ⟨"s3://b/k/c", some ⟨.root, ["d", "c"]⟩, "latin1"⟩]

/-- A session that stands elsewhere than a batch with some content; the variable for its home directory
is absolute. -/
def mixedSession (content : Bytes) : Session where
  files := ⟨[(["d"], .directory), (["d", "e"], .directory), (["d", "e", "b.yaml"], .file content)]⟩
  current := ["d"]
  environment := [("HOME", "/d/")]
  ownHome := none
  homes := []
  objects := none
  yaml := Yaml.read
  threshold := 0
  output := ""
  complaints := ""
  events := []
  requests := []

lemma fileAt_mixedSession (content : Bytes) :
    (mixedSession content).FileAt "~/e/b.yaml" ⟨.root, ["d", "e", "b.yaml"]⟩ content :=
  ⟨by cbv, by decide, by cbv⟩

lemma locationOf_mixedSession (content : Bytes) :
    (mixedSession content).locationOf ⟨.root, ["d", "e", "b.yaml"]⟩ = ["d", "e", "b.yaml"] := by
  cbv

lemma gives_loadSpec_mixedSession : (loadSpec "~/e/b.yaml").Gives
    (mixedSession (Utf8.encode mixedText)) mixedSpec (mixedSession (Utf8.encode mixedText)) :=
  gives_loadSpec_of_fileAt (by decide) (by decide) (fileAt_mixedSession _) (locationOf_mixedSession _)
    (by decide +kernel) (by decide +kernel)

lemma gives_jobs_mixedSession (content : Bytes) :
    (jobs mixedSpec mixedConfig).Gives (mixedSession content) mixedJobs (mixedSession content) := by
  cbv

/-- The batch is loaded from the home directory, and its jobs are the same in the root directory. -/
theorem jobs_anywhere_mixed :
    let s := mixedSession (Utf8.encode mixedText)
    (loadSpec "~/e/b.yaml").Gives (s.moved []) mixedSpec (s.moved []) ∧
      ((jobs mixedSpec mixedConfig).run (s.moved [])).1 = .ok mixedJobs ∧
      List.Forall₂ (Settled mixedSpec mixedConfig) mixedSpec.entries mixedJobs := by
  have hwritten : Path.ofString "~/e/b.yaml" = ⟨.here, "~" :: ["e", "b.yaml"]⟩ := by decide
  have hroot : (mixedSession (Utf8.encode mixedText)).FromRoot "~/e/b.yaml" :=
    Session.fromRoot_of_home hwritten rfl (by decide)
  have hjobs := gives_jobs_mixedSession (Utf8.encode mixedText)
  obtain ⟨hload, hsame, hsettled⟩ :=
    jobs_anywhere hroot gives_loadSpec_mixedSession mixedConfig []
  exact ⟨hload, hsame.trans (congrArg Prod.fst hjobs), hsettled _ hjobs⟩

end Batch

end Wikidown
