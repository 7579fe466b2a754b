import Mathlib
import Wikidown.Batch.Load
import Wikidown.Proofs.Jobs
import Wikidown.Proofs.Names
import Wikidown.Proofs.Schema
import Wikidown.Yaml.Value

/-!
# Loading a batch specification

To load a specification from a file that can be read gives a specification, or a failure that is about
it, or a fault; the session stays as it is (`Run.loadSpec_result`). The reader of YAML is any function
that gives a value, has a complaint, or fails in another way; the texts in its values are made of
characters, without lone surrogates. With such a reader the faults are these (`Batch.Escapes`): a
resolved path that is too long, bytes that are not UTF-8, what the reader fails with besides complaints,
and what the checks are not prepared for.
-/

namespace Wikidown

namespace Session

/-- The names of the current directory are such as the system gives. -/
def Named (s : Session) : Prop :=
  ∀ n ∈ s.current, FileTree.Nameable n

instance : DecidablePred Named := fun s =>
  inferInstanceAs (Decidable (∀ n ∈ s.current, FileTree.Nameable n))

/-- The resolved form of a path is too long for the system. -/
def TooLong (s : Session) (p : Path) : Prop :=
  FileTree.maxPath ≤ FileTree.byteLength (FileTree.pathOf (s.locationOf p)).toString

instance (s : Session) (p : Path) : Decidable (s.TooLong p) :=
  inferInstanceAs (Decidable (_ ≤ _))

end Session

namespace Batch

/-- Faults that are met as a specification is loaded from a file, before its checks and in them. What the
reader fails with is a misfit, unless it is a complaint. -/
inductive Escapes (s : Session) (p : Path) (content : Bytes) : Fault → Prop
  | tooLong (h : s.TooLong p) :
    Escapes s p content (.system ⟨.nameTooLong, FileTree.pathOf (s.locationOf p)⟩)
  | notUtf8 {e : DecodeError} (hshort : ¬ s.TooLong p) (h : Utf8.decode content = .error e) :
    Escapes s p content (.notUtf8 e (content[e.start]?.getD 0))
  | misfit {t : Text} {m : Yaml.Misfit} (hshort : ¬ s.TooLong p) (ht : Utf8.decode content = .ok t)
    (h : s.yaml (Run.unifyLineEnds t) = .error (.misfit m)) : Escapes s p content (.misfit m)
  | overlooked {t : Text} {v : Value} {f : Fault} (hshort : ¬ s.TooLong p)
    (ht : Utf8.decode content = .ok t) (hv : s.yaml (Run.unifyLineEnds t) = .ok v)
    (h : Overlooked v f) : Escapes s p content f

end Batch

lemma Batch.Overlooked.ne_null {v : Value} {f : Fault} (h : Batch.Overlooked v f) : v ≠ .null := by
  rintro rfl
  cases h with
  | version hfields | defaults hfields | job hfields =>
    exact absurd hfields.1 (by simp [Batch.Fields.toValue])

namespace Run

open Batch

variable {s s' : Session} {written : String} {p r base : Path} {content : Bytes} {f : Fault}
variable {spec : Spec} {v : Value} {t : Text} {yaml : Text → Except Yaml.Trouble Value}

/-! ## What the bytes of a file write -/

lemma specText_eq_ok_iff :
    specText content = .ok t ↔ ∃ u, Utf8.decode content = .ok u ∧ unifyLineEnds u = t := by
  rw [specText]
  cases Utf8.decode content <;> simp

lemma specText_eq_error_iff {e : Failure} : specText content = .error e ↔
    ∃ d, Utf8.decode content = .error d ∧ .fault (.notUtf8 d (content[d.start]?.getD 0)) = e := by
  rw [specText]
  cases Utf8.decode content <;> simp

lemma specText_failsIn : FailsIn Failure.InSpecOrFault (specText content) := by
  intro e h
  obtain ⟨d, -, rfl⟩ := specText_eq_error_iff.1 h
  exact .inr ⟨_, rfl⟩

/-- The bytes of a file write a value if they are a text, and the text is a document that is not
empty. -/
lemma specValue_eq_ok_iff : specValue yaml r content = .ok v ↔ v ≠ .null ∧
    ∃ t, Utf8.decode content = .ok t ∧ yaml (unifyLineEnds t) = .ok v := by
  simp only [specValue, Except.bind_eq_ok_iff, specText_eq_ok_iff]
  constructor
  · rintro ⟨_, ⟨t, ht, rfl⟩, hv⟩
    split at hv
    · exact absurd hv (by simp)
    · rename_i hnull hread
      obtain rfl := Except.ok.inj hv
      exact ⟨hnull, t, ht, hread⟩
    · exact absurd hv (by simp)
    · exact absurd hv (by simp)
  · rintro ⟨hnull, t, ht, hv⟩
    refine ⟨_, ⟨t, ht, rfl⟩, ?_⟩
    rw [hv]
    cases v with
    | null => exact absurd rfl hnull
    | _ => rfl

lemma specValue_eq_fault_iff : specValue yaml r content = .error (.fault f) ↔
    (∃ d, Utf8.decode content = .error d ∧ .notUtf8 d (content[d.start]?.getD 0) = f) ∨
    ∃ t m, Utf8.decode content = .ok t ∧ yaml (unifyLineEnds t) = .error (.misfit m) ∧
      .misfit m = f := by
  simp only [specValue, Except.bind_eq_error_iff, specText_eq_error_iff, specText_eq_ok_iff,
    Failure.fault.injEq]
  refine or_congr_right ?_
  constructor
  · rintro ⟨_, ⟨t, ht, rfl⟩, hf⟩
    split at hf
    · exact absurd hf (by simp)
    · exact absurd hf (by simp)
    · exact absurd hf (by simp)
    · rename_i m hread
      exact ⟨t, m, ht, hread, by simpa using hf⟩
  · rintro ⟨t, m, ht, hread, rfl⟩
    exact ⟨_, ⟨t, ht, rfl⟩, by rw [hread]⟩

lemma specValue_failsIn : FailsIn Failure.InSpecOrFault (specValue yaml r content) := by
  refine specText_failsIn.bind fun t e h => ?_
  split at h
  · exact .inl ⟨_, (Except.error.inj h).symm⟩
  · exact absurd h (by simp)
  · exact .inl ⟨_, (Except.error.inj h).symm⟩
  · exact .inr ⟨_, (Except.error.inj h).symm⟩

/-! ## Finding the file -/

/-- Where the resolved path leads. -/
lemma look_resolved_of_fileAt (hs : s.WellFormed) (hnamed : s.Named)
    (h : s.FileAt written p content) :
    s.files.look s.current (FileTree.pathOf (s.locationOf p)) =
      if s.TooLong p then .error .nameTooLong else .ok (.file content) :=
  FileTree.look_resolved hs.rooted hnamed h.look

/-- The path of a file that is there can be resolved. -/
lemma gives_resolve_of_fileAt (hs : s.WellFormed) (hnamed : s.Named)
    (h : s.FileAt written p content) :
    (resolve p).Gives s (FileTree.pathOf (s.locationOf p)) s := by
  refine gives_guard_iff.2 ⟨by simp [h.null], gives_bind_iff.2 ⟨s, s, gives_get_iff.2 ⟨rfl, rfl⟩, ?_⟩⟩
  have hresolve : s.files.resolve s.current p = .ok (FileTree.pathOf (s.locationOf p)) := by
    have hlook := look_resolved_of_fileAt hs hnamed h
    rw [Session.locationOf] at hlook ⊢
    rw [FileTree.resolve, hlook]
    split_ifs <;> rfl
  rw [hresolve, gives_pure_iff]
  exact ⟨rfl, rfl⟩

/-- The content of a file that is there is found at its resolved path, if that is not too long. -/
lemma gives_readSpec_of_fileAt (hs : s.WellFormed) (hnamed : s.Named)
    (h : s.FileAt written p content) (hshort : ¬ s.TooLong p) :
    (readSpec (FileTree.pathOf (s.locationOf p))).Gives s content s := by
  refine gives_bind_iff.2 ⟨s, s, gives_get_iff.2 ⟨rfl, rfl⟩, ?_⟩
  rw [look_resolved_of_fileAt hs hnamed h, if_neg hshort]
  exact gives_pure_iff.2 ⟨rfl, rfl⟩

lemma fails_readSpec_of_fileAt (hs : s.WellFormed) (hnamed : s.Named)
    (h : s.FileAt written p content) (hlong : s.TooLong p) :
    (readSpec (FileTree.pathOf (s.locationOf p))).Fails s
      (.fault (.system ⟨.nameTooLong, FileTree.pathOf (s.locationOf p)⟩)) s := by
  refine fails_bind_iff.2 (.inr ⟨s, s, gives_get_iff.2 ⟨rfl, rfl⟩, ?_⟩)
  rw [look_resolved_of_fileAt hs hnamed h, if_pos hlong]
  exact fails_throw_iff.2 ⟨rfl, rfl⟩

/-! ## Loading -/

lemma run_ofExcept {α : Type} (r : Except Failure α) : (ofExcept r).run s = (r, s) := by
  cases r <;> rfl

/-- A file that is there is loaded in one step: its value is read and checked. -/
lemma run_loadSpec_of_short (hs : s.WellFormed) (hnamed : s.Named)
    (h : s.FileAt written p content) (hshort : ¬ s.TooLong p) : (loadSpec written).run s =
      (specValue s.yaml (FileTree.pathOf (s.locationOf p)) content >>=
        Spec.ofValue (FileTree.pathOf (s.locationOf p)).parent, s) := by
  refine (run_bind_of_gives h.expands).trans ?_
  refine (run_bind_of_gives (gives_resolve_of_fileAt hs hnamed h)).trans ?_
  refine (run_bind_of_gives (gives_get_iff.2 ⟨rfl, rfl⟩)).trans ?_
  refine (run_bind_of_gives (gives_readSpec_of_fileAt hs hnamed h hshort)).trans ?_
  cases hv : specValue s.yaml (FileTree.pathOf (s.locationOf p)) content with
  | error e => rfl
  | ok v => exact run_ofExcept _

/-- So a specification is loaded from a file that is there, if its bytes mean one. -/
lemma gives_loadSpec_of_fileAt {l : Location} (hs : s.WellFormed) (hnamed : s.Named)
    (h : s.FileAt written p content) (hl : s.locationOf p = l)
    (hshort : FileTree.byteLength (FileTree.pathOf l).toString < FileTree.maxPath)
    (hspec : (specValue s.yaml (FileTree.pathOf l) content >>= Spec.ofValue (FileTree.pathOf l).parent) =
      .ok spec) : (loadSpec written).Gives s spec s := by
  subst hl
  have hrun := run_loadSpec_of_short hs hnamed h (Nat.not_le.2 hshort)
  exact hrun.trans (congrArg (·, s) hspec)

lemma fails_loadSpec_of_tooLong (hs : s.WellFormed) (hnamed : s.Named)
    (h : s.FileAt written p content) (hlong : s.TooLong p) : (loadSpec written).Fails s
      (.fault (.system ⟨.nameTooLong, FileTree.pathOf (s.locationOf p)⟩)) s :=
  fails_bind_iff.2 (.inr ⟨p, s, h.expands, fails_bind_iff.2 (.inr ⟨_, s,
    gives_resolve_of_fileAt hs hnamed h, fails_get_bind_iff.2 (fails_bind_iff.2 (.inl
      (fails_readSpec_of_fileAt hs hnamed h hlong)))⟩)⟩)

/-- If the resolved path is not too long, the bytes of a file lead to a fault just if it is one of
those that escape. -/
lemma escapes_iff (hshort : ¬ s.TooLong p) : Escapes s p content f ↔
    (specValue s.yaml r content >>= Spec.ofValue base) = .error (.fault f) := by
  simp only [Except.bind_eq_error_iff, specValue_eq_fault_iff, specValue_eq_ok_iff,
    Spec.ofValue_eq_fault_iff]
  constructor
  · intro h
    cases h with
    | tooLong hlong => exact absurd hlong hshort
    | notUtf8 _ hd => exact .inl (.inl ⟨_, hd, rfl⟩)
    | misfit _ ht hm => exact .inl (.inr ⟨_, _, ht, hm, rfl⟩)
    | overlooked _ ht hv hf => exact .inr ⟨_, ⟨hf.ne_null, _, ht, hv⟩, hf⟩
  · rintro ((⟨d, hd, rfl⟩ | ⟨t, m, ht, hm, rfl⟩) | ⟨v, ⟨-, t, ht, hv⟩, hf⟩)
    · exact .notUtf8 hshort hd
    · exact .misfit hshort ht hm
    · exact .overlooked hshort ht hv hf

/-- A specification that is loaded is what the value in its file means; its base directory is the one
that holds the file. -/
lemma gives_loadSpec (h : (loadSpec written).Gives s spec s') : ∃ p v,
    (expandHome (Path.ofString written)).Gives s p s ∧
      spec.base = (FileTree.pathOf (s.locationOf p)).parent ∧ Means v spec.defaults spec.entries := by
  obtain ⟨p, t, hp, hresolve⟩ := gives_bind_iff.1 h
  obtain rfl : t = s := (keeps_expandHome (v := id)).of_gives hp
  obtain ⟨r, t', hr, hread⟩ := gives_bind_iff.1 hresolve
  obtain ⟨content, t'', -, hvalue⟩ := gives_bind_iff.1 (gives_get_bind_iff.1 hread)
  obtain ⟨v, u, -, hspec⟩ := gives_bind_iff.1 hvalue
  obtain ⟨hmeans, hbase⟩ := Spec.ofValue_eq_ok_iff.1 (gives_ofExcept_iff.1 hspec).1
  exact ⟨p, v, hp, by rw [hbase, eq_of_gives_resolve hr], hmeans⟩

lemma keeps_readSpec {γ : Type} {v : Session → γ} : (readSpec p).Keeps v fun _ => True := by
  refine keeps_get.bind fun s => ?_
  split
  · exact keeps_pure
  · exact keeps_throw trivial
  · exact keeps_throw trivial
  · exact (keeps_throw trivial).ite (keeps_throw trivial)

/-- Loading does not change the session. -/
lemma keeps_loadSpec {γ : Type} {v : Session → γ} : (loadSpec written).Keeps v fun _ => True :=
  (keeps_expandHome.mono fun _ _ => trivial).bind fun _ =>
    (keeps_resolve.mono fun _ _ => trivial).bind fun _ => keeps_get.bind fun _ =>
      keeps_readSpec.bind fun _ => (keeps_ofExcept fun _ _ => trivial).bind fun _ =>
        keeps_ofExcept fun _ _ => trivial

/-- A session in the home directory, where a batch specification has some content. -/
def loadingSession (content : Bytes) : Session where
  files := ⟨[(["d"], .directory), (["d", "b.yaml"], .file content)]⟩
  current := ["d"]
  environment := [("HOME", "/d")]
  ownHome := none
  homes := []
  objects := none
  yaml := Yaml.read
  threshold := Level.warning.number
  output := ""
  complaints := ""
  events := []
  requests := []

end Run

end Wikidown
