import Wikidown.Proofs.Loading
import Wikidown.Proofs.WrittenPaths

/-!
# Jobs that are ready to be told

A job of a batch can be told to the program in words without a loss if its output is read back as it is
written and its encoding is accepted again (`Batch.Ready`). The jobs of a batch that was loaded from a
file are of this kind (`Batch.ready_of_gives_jobs`): their outputs are made of paths that were read and
of the resolved base directory, and their encodings were accepted before.
-/

namespace Wikidown.Batch

open Run

variable {spec : Spec} {c : Config} {entry : Entry} {job : Job}
variable {s s' s'' : Session} {base p q : Path} {written file : String} {js : List Job} {v : Value}

/-- An output that is read back as it is written, and an encoding that is accepted again. -/
structure Ready (job : Job) : Prop where
  output : ∀ p ∈ job.output, p.Clean
  charset : ∀ source, Config.readCharset source job.charset = .ok job.charset

lemma Ready.charset_ne_empty (h : Ready job) : job.charset ≠ "" := by
  intro hempty
  have hknown := (Config.readCharset_eq_ok_iff.1 (h.charset "")).2.2
  simp [hempty, Charset.find?_empty] at hknown

/-! ## Outputs -/

lemma clean_of_gives_expandHome (hp : p.Clean) (h : (expandHome p).Gives s q s') : q.Clean := by
  rw [expandHome] at h
  split at h
  · rename_i n rest hanchor hnames
    split at h
    · obtain ⟨d, t, -, hq⟩ := gives_bind_iff.1 h
      rw [← (gives_pure_iff.1 hq).1]
      exact Path.clean_ofString.append fun m hm => hp m (hnames ▸ List.mem_cons_of_mem n hm)
    · rwa [← (gives_pure_iff.1 h).1]
  · rwa [← (gives_pure_iff.1 h).1]

lemma clean_of_gives_localPath (hbase : base.Clean) (h : (localPath base written).Gives s q s') :
    q.Clean := by
  obtain ⟨p, t, hp, hq⟩ := gives_bind_iff.1 h
  rw [← (gives_pure_iff.1 hq).1]
  exact hbase.join (clean_of_gives_expandHome Path.clean_ofString hp)

lemma isName_of_stemOf {input stem : String} (h : stemOf input = .ok stem) :
    Path.IsName (stem ++ suffix) := by
  rw [stemOf] at h
  split at h
  · cases hparse : Address.parse input with
    | error e => simp [hparse, Except.map] at h
    | ok a =>
      rw [hparse] at h
      rw [← Except.ok.inj h]
      exact Path.clean_ofString.isName_stem_append
  · rw [← Except.ok.inj h]
    exact Path.clean_ofString.isName_stem_append

lemma inherited_clean : Inherited Path.Clean where
  localPath := clean_of_gives_localPath
  derived hdir hstem := hdir.append (List.forall_mem_singleton.2 (isName_of_stemOf hstem))

/-! ## Encodings -/

/-- The name of an encoding that stands in a specification is accepted again. -/
lemma MeansEncoding.accepted {o : Option Value} {charset : Option String} {name : String}
    (h : MeansEncoding o charset) (hname : name ∈ charset) (source : String) :
    Config.readCharset source name = .ok name := by
  refine Config.readCharset_eq_ok_iff.2 ⟨?_, h.2 name hname⟩
  obtain rfl := Option.mem_def.1 hname
  exact h.1.stripped_eq

lemma MeansEntry.accepted {name : String} (h : MeansEntry v entry) (hname : name ∈ entry.charset)
    (source : String) : Config.readCharset source name = .ok name := by
  cases h with
  | input => simp at hname
  | fields _ _ _ hcharset => exact hcharset.accepted hname source

lemma MeansDefaults.accepted {o : Option Value} {d : Defaults} {name : String}
    (h : MeansDefaults o d) (hname : name ∈ d.charset) (source : String) :
    Config.readCharset source name = .ok name := by
  cases h with
  | absent | null => simp at hname
  | fields _ hcharset => exact hcharset.accepted hname source

/-- The encoding of the settings is accepted again. -/
lemma accepted_of_ofVariables {environment : List (String × String)}
    (h : Config.ofVariables environment = .ok c) (source : String) :
    Config.readCharset source c.charset = .ok c.charset := by
  obtain ⟨charset, hcharset, h⟩ := Except.bind_eq_ok_iff.1 h
  obtain ⟨strikethrough, -, h⟩ := Except.bind_eq_ok_iff.1 h
  obtain ⟨level, -, h⟩ := Except.bind_eq_ok_iff.1 h
  obtain rfl := Except.pure_eq_ok_iff.1 h
  exact Config.readCharset_of_accepted hcharset

/-- So is the encoding of a job, wherever it stands. -/
lemma accepted_charset (hc : Config.ofVariables s.environment = .ok c)
    (hmeans : Means v spec.defaults spec.entries) (hentry : entry ∈ spec.entries) (source : String) :
    Config.readCharset source ((entry.charset <|> spec.defaults.charset).getD c.charset) =
      .ok ((entry.charset <|> spec.defaults.charset).getD c.charset) := by
  obtain ⟨-, -, hdefaults, -, -, hentries⟩ := hmeans
  obtain ⟨row, -, hrow⟩ := exists_mem_of_forall₂ hentries hentry
  cases hcharset : entry.charset with
  | some name => exact hrow.accepted hcharset source
  | none =>
    cases hdefault : spec.defaults.charset with
    | some name => exact hdefaults.accepted hdefault source
    | none => exact accepted_of_ofVariables hc source

/-! ## Jobs -/

/-- All jobs of a batch that was loaded can be told without a loss. -/
lemma ready_of_gives_jobs (hcurrent : ∀ n ∈ s.current, Path.IsName n)
    (hc : Config.ofVariables s.environment = .ok c) (hspec : (loadSpec file).Gives s spec s')
    (hjs : (jobs spec c).Gives s' js s'') : ∀ job ∈ js, Ready job := by
  obtain ⟨p, v, hp, hbase, hmeans⟩ := gives_loadSpec hspec
  obtain rfl : s' = s := (keeps_loadSpec (v := id)).of_gives hspec
  obtain rfl : s'' = s' := (keeps_jobs (v := id)).of_gives hjs
  obtain ⟨dir, hdir, hhave, -, -⟩ := gives_jobs_iff.1 hjs
  have hclean : spec.base.Clean := by
    rw [hbase]
    exact (FileTree.clean_pathOf_resolveLocation hcurrent
      (clean_of_gives_expandHome Path.clean_ofString hp)).parent
  intro job hjob
  obtain ⟨entry, hentry, hgives⟩ := exists_mem_of_forall₂ hhave hjob
  obtain ⟨-, houtput, hcharset⟩ := gives_jobOf hgives
  refine ⟨inherited_clean.outputOf hclean (inherited_clean.outputDir hclean hdir) houtput, ?_⟩
  rw [hcharset]
  exact accepted_charset hc hmeans hentry

end Wikidown.Batch
