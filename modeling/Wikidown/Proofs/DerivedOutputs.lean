import Wikidown.Proofs.ReadyJobs

/-!
# Derived outputs

An entry that names no output is written to a file of the output directory whose name comes from the
input. Whatever the input is, this is one name, and not one that leads elsewhere (`OutputName`): the
dots and slashes of the input are taken apart before. So the file stands in the output directory itself
(`Batch.output_derived`), and so do all files of a batch whose entries name no outputs
(`Batch.jobs_derived`). Only a bad address of a remote object has no output.
-/

namespace Wikidown

namespace Path

variable {p : Path} {n : String}

/-- A name is read as the path of itself. -/
lemma ofString_of_isName (h : IsName n) : ofString n = ⟨.here, [n]⟩ := by
  have hwritten : toString ⟨.here, [n]⟩ = n := by simp [toString, anchorText]
  have hclean : Clean ⟨.here, [n]⟩ := List.forall_mem_singleton.2 h
  rw [← hclean.ofString_toString, hwritten]

lemma join_ofString (h : IsName n) : p.join (ofString n) = p.append [n] := by
  simp [ofString_of_isName h, join, isAbsolute]

end Path

lemma Address.parse_eq_error {uri : String} {e : Failure} (h : Address.parse uri = .error e) :
    e = .read (.badAddress uri) := by
  rw [Address.parse] at h
  split_ifs at h
  exact (Except.error.inj h).symm

namespace Batch

open Run

variable {spec : Spec} {c : Config} {js : List Job}
variable {base dir : Path} {output : Option Path} {input stem : String} {charset : Option String}
variable {e : Failure} {s s' : Session}

/-- A name of a Markdown file that stands in a directory itself. -/
structure OutputName (n : String) : Prop where
  ending : suffix.toList <:+ n.toList
  slash : '/' ∉ n.toList
  notHere : n ≠ "."
  notUp : n ≠ ".."

/-- The path is that of a directory joined with one name, which leads nowhere else. -/
def StandsIn (dir p : Path) : Prop :=
  ∃ n, OutputName n ∧ p = dir.join (Path.ofString n) ∧ p.names = dir.names ++ [n] ∧ p.parent = dir

/-! ## Names -/

lemma stemOf_eq_error (h : stemOf input = .error e) :
    Address.isRemote input = true ∧ e = .read (.badAddress input) := by
  rw [stemOf] at h
  split_ifs at h with hremote
  refine ⟨hremote, Address.parse_eq_error ?_⟩
  cases hparse : Address.parse input with
  | ok a => simp [hparse, Except.map] at h
  | error e' => simpa [hparse, Except.map] using h

/-- The name of an input with the ending of outputs leads nowhere else. -/
lemma outputName_of_stemOf (h : stemOf input = .ok stem) : OutputName (stem ++ suffix) := by
  obtain ⟨-, hdot, hslash⟩ := isName_of_stemOf h
  refine ⟨by simp, hslash, hdot, fun hup => ?_⟩
  have hlength := congrArg String.length hup
  have hsuffix : suffix.length = 3 := rfl
  have htwo : "..".length = 2 := rfl
  rw [String.length_append, hsuffix] at hlength
  omega

lemma standsIn_of_stemOf (h : stemOf input = .ok stem) :
    StandsIn dir (dir.append [stem ++ suffix]) :=
  ⟨stem ++ suffix, outputName_of_stemOf h, (Path.join_ofString (isName_of_stemOf h)).symm, rfl,
    Path.parent_append_singleton dir _⟩

/-- Dots and slashes, and a key that ends in dots. -/
example : stemOf "../..//" = .ok ".." ∧ stemOf "/" = .ok "" ∧
    stemOf "s3://bucket/a/../.." = .ok ".." := by
  decide

/-! ## Outputs -/

/-- What an output comes from if no other one is named. -/
lemma gives_outputOf_derived_iff :
    (outputOf base (some dir) ⟨input, none, charset⟩).Gives s output s' ↔
      ∃ stem, stemOf input = .ok stem ∧ output = some (dir.append [stem ++ suffix]) ∧ s' = s := by
  constructor
  · intro h
    obtain ⟨stem, t, hgives, houtput⟩ := gives_bind_iff.1 h
    obtain ⟨hstem, rfl⟩ := gives_ofExcept_iff.1 hgives
    obtain ⟨rfl, rfl⟩ := gives_pure_iff.1 houtput
    exact ⟨stem, hstem, rfl, rfl⟩
  · rintro ⟨stem, hstem, rfl, rfl⟩
    exact gives_bind_iff.2 ⟨stem, s', gives_ofExcept_iff.2 ⟨hstem, rfl⟩, gives_pure_iff.2 ⟨rfl, rfl⟩⟩

/-- The output of an entry that names none stands in the output directory itself, whatever the input
is. Only a bad address of a remote object has no output. -/
theorem output_derived (base dir : Path) (input : String) (charset : Option String) (s : Session) :
    (∃ p, StandsIn dir p ∧
      (outputOf base (some dir) ⟨input, none, charset⟩).Gives s (some p) s) ∨
    Address.isRemote input = true ∧
      (outputOf base (some dir) ⟨input, none, charset⟩).Fails s (.read (.badAddress input)) s := by
  cases hstem : stemOf input with
  | ok stem =>
    exact .inl ⟨_, standsIn_of_stemOf hstem, gives_outputOf_derived_iff.2 ⟨stem, hstem, rfl, rfl⟩⟩
  | error e =>
    obtain ⟨hremote, rfl⟩ := stemOf_eq_error hstem
    exact .inr ⟨hremote, fails_bind_iff.2 (.inl (fails_ofExcept_iff.2 ⟨hstem, rfl⟩))⟩

/-- In a batch, the outputs that are not named stand in the output directory itself. -/
theorem jobs_derived (h : (jobs spec c).Gives s js s) : ∃ dir, (outputDir spec).Gives s dir s ∧
    List.Forall₂ (fun entry job => entry.output = none → ∀ d ∈ dir, ∃ p ∈ job.output, StandsIn d p)
      spec.entries js := by
  obtain ⟨dir, hdir, hhave, -, -⟩ := gives_jobs_iff.1 h
  refine ⟨dir, hdir, hhave.imp fun entry job hjob hnone d hd => ?_⟩
  obtain ⟨input, written, charset⟩ := entry
  obtain rfl : written = none := hnone
  obtain rfl := Option.mem_def.1 hd
  obtain ⟨source, t, -, hjob⟩ := gives_bind_iff.1 hjob
  obtain ⟨output, t', houtput, hjob⟩ := gives_bind_iff.1 hjob
  obtain ⟨rfl, -⟩ := gives_pure_iff.1 hjob
  obtain ⟨stem, hstem, rfl, -⟩ := gives_outputOf_derived_iff.1 houtput
  exact ⟨_, rfl, standsIn_of_stemOf hstem⟩

end Batch

end Wikidown
