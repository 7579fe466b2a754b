import Wikidown.Proofs.Runs
import Wikidown.Proofs.Writing
import Wikidown.Source

/-!
# Sources

What a source holds in a session (`Session.contentOf?`) is found without reading it: a local path is
resolved, and a remote object is looked up. Reading a source gives its content as text, converted
(`Run.gives_sourceMarkdown`), and changes nothing but what is reported and requested
(`Run.keeps_sourceMarkdown`). As files are written elsewhere, the content stays the same
(`Session.Proceeds.contentOf?_eq`).
-/

namespace Wikidown

namespace Session

/-- A source is local, and in a session it has a path, with the home directory in its place. -/
def Reads (s : Session) (source : String) (p : Path) : Prop :=
  Address.isRemote source = false ∧ (Run.expandHome (Path.ofString source)).Gives s p s

/-- The bytes that a source holds in a session: those of the object with its address, or those of the
file at the location that its path is resolved to. -/
def contentOf? (s : Session) (source : String) : Option Bytes :=
  if Address.isRemote source then
    (Address.parse source).toOption.bind fun a =>
      s.objects.bind fun objects => objects.lookup (a.bucket, a.key)
  else
    ((Run.expandHome (Path.ofString source)).run s).1.toOption.bind fun p =>
      s.files.fileAt? (s.locationOf p)

/-- A path, as it is written, leads to a file; `p` is the path with the home directory in its place. -/
structure FileAt (s : Session) (written : String) (p : Path) (content : Bytes) : Prop where
  expands : (Run.expandHome (Path.ofString written)).Gives s p s
  null : p.hasNull = false
  look : s.files.look s.current p = .ok (.file content)

end Session

/-- A change of sessions leaves it as it is where home directories are. -/
structure Session.KeepsHomes (g : Session → Session) : Prop where
  environment : ∀ s, (g s).environment = s.environment := by exact fun _ => rfl
  ownHome : ∀ s, (g s).ownHome = s.ownHome := by exact fun _ => rfl
  homes : ∀ s, (g s).homes = s.homes := by exact fun _ => rfl

/-- A failure is about a source: the source cannot be read, or the store of remote objects cannot be
reached. -/
def Failure.InReading (e : Failure) : Prop :=
  e = .remoteSupport ∨ ∃ x, e = .read x

lemma Failure.InReading.ordinary {e : Failure} (h : e.InReading) : e.Ordinary := by
  rcases h with rfl | ⟨x, rfl⟩
  · simp [Failure.Ordinary]
  · simp [Failure.Ordinary]

lemma Address.parse_inReading {uri : String} {e : Failure} (h : Address.parse uri = .error e) :
    e.InReading := by
  rw [Address.parse] at h
  split_ifs at h
  exact .inr ⟨_, (Except.error.inj h).symm⟩

namespace Run

variable {s s' : Session} {g : Session → Session} {c : Config} {o : Options} {a : Address}
variable {p : Path} {name source charset : String} {content : Bytes} {s₁ m : CodeText}
variable {E : Failure → Prop}

/-! ## Home directories -/

lemma keeps_home {γ : Type} {v : Session → γ} : (home name).Keeps v Failure.Ordinary := by
  have hrefuse : (refuse .unknownHome : Run String).Keeps v Failure.Ordinary :=
    keeps_throw (by simp [Failure.Ordinary])
  refine keeps_guard (by simp [Failure.Ordinary]) (keeps_get.bind fun s => ?_)
  dsimp only
  split
  · exact hrefuse
  · exact hrefuse.ite keeps_pure

lemma keeps_expandHome {γ : Type} {v : Session → γ} :
    (expandHome p).Keeps v Failure.Ordinary := by
  rw [expandHome]
  split
  · exact (keeps_home.bind fun d => keeps_pure).ite keeps_pure
  · exact keeps_pure

/-- Only the variables and the accounts of a session say where home directories are. -/
lemma ignores_expandHome (hg : Session.KeepsHomes g) : (expandHome p).Ignores g := by
  have hhome (name : String) : (home name).Ignores g := by
    refine ignores_guard (ignores_get_bind (fun s => ?_) fun s => ?_)
    · simp only [hg.environment, hg.ownHome, hg.homes]
    · dsimp only
      split
      · exact ignores_throw
      · exact ignores_throw.ite ignores_pure
  rw [expandHome]
  split
  · exact ((hhome _).bind fun d => ignores_pure).ite ignores_pure
  · exact ignores_pure

/-! ## Reading -/

lemma keeps_request {r : Request} : (request r).Keeps Session.unreported E :=
  keeps_modify fun _ => rfl

lemma keeps_readLocal : (readLocal p).Keeps Session.unreported Failure.Ordinary := by
  refine keeps_guard (by simp [Failure.Ordinary]) (keeps_get.bind fun s => ?_)
  split
  · exact keeps_pure
  · exact keeps_throw (by simp [Failure.Ordinary])
  · exact keeps_throw (by simp [Failure.Ordinary])
  · exact (keeps_throw (by simp [Failure.Ordinary])).ite (keeps_throw (by simp [Failure.Ordinary]))

lemma gives_readLocal_iff : (readLocal p).Gives s content s' ↔
    p.hasNull = false ∧ s.files.look s.current p = .ok (.file content) ∧ s = s' := by
  constructor
  · intro h
    obtain ⟨hnull, h⟩ := gives_guard_iff.1 h
    rw [gives_get_bind_iff] at h
    split at h
    · obtain ⟨rfl, rfl⟩ := gives_pure_iff.1 h
      exact ⟨by simpa using hnull, by assumption, rfl⟩
    · exact absurd h not_gives_throw
    · exact absurd h not_gives_throw
    · split_ifs at h <;> exact absurd h not_gives_throw
  · rintro ⟨hnull, hlook, rfl⟩
    refine gives_guard_iff.2 ⟨by simp [hnull], gives_get_bind_iff.2 ?_⟩
    rw [hlook]
    exact gives_pure_iff.2 ⟨rfl, rfl⟩

lemma keeps_readRemote : (readRemote c a).Keeps Session.unreported Failure.InReading := by
  refine keeps_get.bind fun t => ?_
  split
  · exact keeps_throw (.inl rfl)
  · refine keeps_request.bind fun _ => keeps_request.bind fun _ => keeps_request.bind fun _ => ?_
    split
    · exact keeps_pure
    · exact keeps_throw (.inr ⟨_, rfl⟩)

lemma gives_readRemote (h : (readRemote c a).Gives s content s') :
    ∃ objects, s.objects = some objects ∧ objects.lookup (a.bucket, a.key) = some content := by
  obtain ⟨t, t', ht, h⟩ := gives_bind_iff.1 h
  obtain ⟨rfl, rfl⟩ := gives_get_iff.1 ht
  split at h
  · exact absurd h not_gives_throw
  · rename_i objects hobjects
    obtain ⟨_, _, -, h⟩ := gives_bind_iff.1 h
    obtain ⟨_, _, -, h⟩ := gives_bind_iff.1 h
    obtain ⟨_, _, -, h⟩ := gives_bind_iff.1 h
    split at h
    · rename_i hlookup
      rw [(gives_pure_iff.1 h).1] at hlookup
      exact ⟨objects, hobjects, hlookup⟩
    · exact absurd h not_gives_throw

/-- An object that is there is fetched, whatever is requested for it. -/
lemma exists_gives_readRemote {objects : List ((String × String) × Bytes)}
    (hobjects : s.objects = some objects) (h : objects.lookup (a.bucket, a.key) = some content) :
    ∃ t, (readRemote c a).Gives s content t := by
  simp only [readRemote, gives_get_bind_iff, hobjects, h]
  exact ⟨_, gives_bind_iff.2 ⟨(), _, gives_modify _ s, gives_bind_iff.2 ⟨(), _, gives_modify _ _,
    gives_bind_iff.2 ⟨(), _, gives_modify _ _, gives_pure_iff.2 ⟨rfl, rfl⟩⟩⟩⟩⟩

lemma keeps_sourceBytes : (sourceBytes c source).Keeps Session.unreported Failure.Ordinary := by
  have hremote : (ofExcept (Address.parse source) >>= readRemote c).Keeps Session.unreported
      Failure.InReading :=
    (keeps_ofExcept fun _ => Address.parse_inReading).bind fun _ => keeps_readRemote
  exact (hremote.mono fun _ => Failure.InReading.ordinary).ite
    (keeps_expandHome.bind fun _ => keeps_readLocal)

/-- What is read is what the source holds. -/
lemma contentOf?_of_gives (h : (sourceBytes c source).Gives s content s') :
    s.contentOf? source = some content := by
  rw [sourceBytes] at h
  rw [Session.contentOf?]
  split_ifs at h ⊢
  · obtain ⟨a, t, ha, h⟩ := gives_bind_iff.1 h
    obtain ⟨hparse, rfl⟩ := gives_ofExcept_iff.1 ha
    obtain ⟨objects, hobjects, hlookup⟩ := gives_readRemote h
    simp [hparse, Except.toOption, hobjects, hlookup]
  · obtain ⟨p, t, hp, hread⟩ := gives_bind_iff.1 h
    obtain rfl : t = s := (keeps_expandHome (v := id)).of_gives hp
    rw [hp]
    exact (FileTree.look_eq_file_iff.1 (gives_readLocal_iff.1 hread).2.1).2

/-- Bytes that have no text cannot be read, or the name of their encoding is none, or its codec refuses
them as a whole. -/
lemma decodeSource_eq_error {e : Failure} (h : decodeSource content charset source = .error e) :
    e.InReading ∨ '\x00' ∈ charset.toList ∧ e = .fault .nullInName ∨
    ∃ decode r, content ≠ [] ∧ Charset.find? charset = some (.text decode) ∧
      decode content = .error (.refused r) ∧ e = .fault (.refusingCodec charset r) := by
  rw [decodeSource] at h
  split_ifs at h with hnull hne
  · exact .inr (.inl ⟨by simpa using hnull, (Except.error.inj h).symm⟩)
  · split at h
    · rename_i decode hfind
      cases hdecode : decode content with
      | ok text => simp [hdecode, Except.mapError] at h
      | error u =>
        rw [hdecode] at h
        obtain rfl := Except.error.inj h
        cases u with
        | flawed => exact .inl (.inr ⟨_, rfl⟩)
        | refused r => exact .inr (.inr ⟨decode, r, hne, hfind, hdecode, rfl⟩)
    · exact .inl (.inr ⟨_, (Except.error.inj h).symm⟩)
    · exact .inl (.inr ⟨_, (Except.error.inj h).symm⟩)

lemma decodeSource_ordinary {e : Failure} (h : decodeSource content charset source = .error e) :
    e.Ordinary := by
  rcases decodeSource_eq_error h with he | ⟨-, rfl⟩ | ⟨_, _, -, -, -, rfl⟩
  · exact he.ordinary
  · simp [Failure.Ordinary]
  · simp [Failure.Ordinary]

lemma keeps_sourceText : (sourceText c charset source).Keeps Session.unreported Failure.Ordinary :=
  keeps_sourceBytes.bind fun _ =>
    (keeps_ofExcept fun _ => decodeSource_ordinary).bind fun _ => keeps_emit.bind fun _ => keeps_pure

lemma keeps_performConversion : (performConversion o s₁).Keeps Session.unreported E :=
  (keeps_foldlM fun _ _ => keeps_emit.bind fun _ => keeps_pure).bind fun _ =>
    keeps_emit.bind fun _ => keeps_pure

lemma gives_performConversion (h : (performConversion o s₁).Gives s m s') : m = s₁.convert o := by
  have hrun {rs : List Rule} {t m : CodeText} {s s' : Session}
      (h : (rs.foldlM (Rule.perform o) t).Gives s m s') :
      m = rs.foldl (fun t r => t.rewrite (r.apply o)) t := by
    induction rs generalizing t s with
    | nil => exact (gives_pure_iff.1 h).1.symm
    | cons r rs ih =>
      rw [List.foldlM_cons] at h
      obtain ⟨t', s₁, hr, h⟩ := gives_bind_iff.1 h
      obtain ⟨_, s₂, -, hr⟩ := gives_bind_iff.1 hr
      rw [List.foldl_cons, (gives_pure_iff.1 hr).1, ih h]
  obtain ⟨t, s₁, ht, h⟩ := gives_bind_iff.1 h
  obtain ⟨_, s₂, -, h⟩ := gives_bind_iff.1 h
  rw [← (gives_pure_iff.1 h).1]
  exact hrun ht

lemma keeps_sourceMarkdown :
    (sourceMarkdown c charset o source).Keeps Session.unreported Failure.Ordinary :=
  keeps_sourceText.bind fun _ => keeps_performConversion

/-- The Markdown of a source is the conversion of the text that the source holds. -/
lemma gives_sourceMarkdown (h : (sourceMarkdown c charset o source).Gives s m s') :
    ∃ content t, s.contentOf? source = some content ∧ decodeSource content charset source = .ok t ∧
      m = t.convert o := by
  obtain ⟨t, s₁, ht, h⟩ := gives_bind_iff.1 h
  obtain ⟨content, s₂, hcontent, ht⟩ := gives_bind_iff.1 ht
  obtain ⟨t', s₃, hdecode, ht⟩ := gives_bind_iff.1 ht
  obtain ⟨_, s₄, -, ht⟩ := gives_bind_iff.1 ht
  obtain rfl := (gives_pure_iff.1 ht).1
  exact ⟨content, t', contentOf?_of_gives hcontent, (gives_ofExcept_iff.1 hdecode).1,
    gives_performConversion h⟩

end Run

namespace Session.Proceeds

variable {s s' : Session} {w : Set Location} {source : String} {p : Path}

lemma eq (h : s.Proceeds w s') :
    s' = { s with files := s'.files, events := s'.events, requests := s'.requests } := by
  have heq := congrArg (fun t : Session =>
    { t with files := s'.files, events := s'.events, requests := s'.requests }) h.surroundings
  exact heq

lemma result_expandHome_eq (h : s.Proceeds w s') (p : Path) :
    ((Run.expandHome p).run s').1 = ((Run.expandHome p).run s).1 := by
  have hignores : (Run.expandHome p).Ignores fun t =>
      { t with files := s'.files, events := s'.events, requests := s'.requests } :=
    Run.ignores_expandHome {}
  have heq := hignores.result_eq s
  rwa [← h.eq] at heq

/-- A source holds what it held if no file is written at the location of its path. -/
lemma contentOf?_eq (h : s.Proceeds w s') (hw : ∀ p, s.Reads source p → s.locationOf p ∉ w) :
    s'.contentOf? source = s.contentOf? source := by
  have hobjects : s'.objects = s.objects := by rw [h.eq]
  rw [contentOf?, contentOf?, hobjects, h.result_expandHome_eq]
  split_ifs with hremote
  · rfl
  · rcases Run.gives_or_fails (Run.expandHome (Path.ofString source)) s with
      ⟨p, t, hp⟩ | ⟨e, t, hp⟩
    · obtain rfl : t = s := (Run.keeps_expandHome (v := id)).of_gives hp
      have hp' : t.locationOf p ∉ w := hw p ⟨by simpa using hremote, hp⟩
      rw [hp]
      exact (congrArg s'.files.fileAt? (h.locationOf_eq p)).trans (h.files.fileAt?_eq hp')
    · rw [hp]
      rfl

end Session.Proceeds

end Wikidown
