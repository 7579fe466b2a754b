import Wikidown.Output
import Wikidown.Proofs.Activities
import Wikidown.Proofs.Destinations

/-!
# Writing files

To write a file, the directories above it are made first. Whatever comes of it, the tree grows, and
nothing but the files and the reports of a session changes (`Session.Proceeds`). If it succeeds, the
file is where the path was resolved to beforehand, and the path leads to it (`Run.gives_writeFile`). If
it fails, no file has changed, unless the text has lone surrogates: then the file is there and empty
(`Run.fails_writeFile`).
-/

namespace Wikidown

namespace FileTree

variable {t t' : FileTree} {w : Set Location} {cwd l : Location} {p : Path} {content : Bytes}

/-! ## Directories -/

/-- A directory that is made comes into a directory, to a place where nothing was. -/
lemma eq_set_of_makeDirectory (h : t.makeDirectory cwd p = .ok t') :
    ∃ parent n, t.get? parent = some .directory ∧ t.get? (parent ++ [n]) = none ∧
      t' = t.set (parent ++ [n]) .directory := by
  cases hn : p.names.getLast? with
  | none => simp [makeDirectory, hn] at h
  | some n =>
    by_cases hlong : maxPath ≤ byteLength p.toString
    · simp [makeDirectory, hn, hlong] at h
    cases hlocate : t.locate cwd false p.parent with
    | error o => simp [makeDirectory, hn, hlong, hlocate, Except.bind] at h
    | ok parent =>
      simp only [makeDirectory, hn, hlong, hlocate, Except.bind, if_false] at h
      cases hparent : t.get? parent with
      | none => simp [hparent] at h
      | some e =>
        cases e with
        | file | link => simp [hparent] at h
        | barred isDirectory => cases isDirectory <;> simp [hparent] at h
        | directory =>
          simp only [hparent] at h
          split_ifs at h with hup hname hsome
          exact ⟨parent, n, hparent, by simpa using hsome, (Except.ok.inj h).symm⟩

lemma grows_of_makeDirectory (h : t.makeDirectory cwd p = .ok t') : Grows w t t' := by
  obtain ⟨parent, n, hparent, hnone, rfl⟩ := eq_set_of_makeDirectory h
  exact grows_set_directory (by rwa [List.dropLast_concat]) hnone

lemma eq_self_of_acceptDirectory {o : Obstacle} (h : t.acceptDirectory cwd p o = .ok t') :
    t' = t := by
  rw [acceptDirectory] at h
  split at h
  · exact (Except.ok.inj h).symm
  · exact absurd h (by simp)
  · exact absurd h (by simp)

lemma grows_of_ensureDirectory (h : t.ensureDirectory cwd p = .ok t') : Grows w t t' := by
  rw [ensureDirectory] at h
  split at h
  · obtain rfl := Except.ok.inj h
    exact grows_of_makeDirectory ‹_›
  · exact absurd h (by simp)
  · rw [eq_self_of_acceptDirectory h]
    exact .refl t

/-- However far the directories above a file could be made, no file changes. -/
lemma grows_makeDirectories (t : FileTree) (cwd : Location) (p : Path) :
    Grows w t (t.makeDirectories cwd p).2 := by
  fun_induction t.makeDirectories cwd p with
  | case1 p t' hmade => exact grows_of_makeDirectory hmade
  | case2 => exact .refl t
  | case3 p hmissing hnames e t' habove ih => simpa [habove] using ih
  | case4 p hmissing hnames t' habove t'' hmade ih =>
    rw [habove] at ih
    exact ih.trans (grows_of_ensureDirectory hmade)
  | case5 p hmissing hnames t' habove e hmade ih => simpa [habove] using ih
  | case6 p o ho hmade t' haccept =>
    rw [eq_self_of_acceptDirectory haccept]
    exact .refl t
  | case7 => exact .refl t

/-! ## Files -/

lemma eq_set_of_writeFile (h : t.writeFile cwd p content = .ok t') : ∃ l,
    t.locate cwd true p = .ok l ∧ (t.get? l).bind guard? = none ∧ t' = t.set l (.file content) := by
  cases hlocate : t.locate cwd true p with
  | error o => simp [writeFile, hlocate, Except.bind] at h
  | ok l =>
    simp only [writeFile, hlocate, Except.bind] at h
    split at h
    · exact absurd h (by simp)
    · exact ⟨l, rfl, ‹_›, (Except.ok.inj h).symm⟩

/-- A file is written only where its path was resolved to, and the path leads to it. -/
lemma grows_of_writeFile (hr : t.Rooted) (hcwd : t.get? cwd = some .directory)
    (h : t.writeFile cwd p content = .ok t') :
    Grows {t.resolveLocation cwd p} t t' ∧ t'.look cwd p = .ok (.file content) := by
  obtain ⟨l, hlocate, hfree, rfl⟩ := eq_set_of_writeFile h
  obtain ⟨hparent, hlink⟩ := reached_of_locate hr hcwd hlocate
  have hg : Grows {l} t (t.set l (.file content)) :=
    grows_set_file hparent (linkAt?_eq_none_iff.1 hlink) hfree
  have hresolve := resolveLocation_of_locate hlocate
  rw [hresolve, look_eq_file_iff, hg.resolveLocation_eq, hresolve]
  exact ⟨hg, hg.locate (locate_looking hlocate),
    fileAt?_eq_some_iff.2 (get?_set_self (ne_nil_of_get? (get?_ne_directory_of_guard? hfree)) _)⟩

end FileTree

/-! ## Sessions -/

namespace Session

/-- A session without what was reported and requested in it. -/
def unreported (s : Session) : Session :=
  { s with events := [], requests := [] }

/-- A session without its files, and without what was reported and requested in it. -/
def surroundings (s : Session) : Session :=
  { s.unreported with files := .empty }

/-- The location that a path leads to in a session, whether something is there or not. -/
def locationOf (s : Session) (p : Path) : Location :=
  s.files.resolveLocation s.current p

/-- In a session every entry stands in a directory, and so does the session itself. -/
structure WellFormed (s : Session) : Prop where
  rooted : s.files.Rooted
  current : s.files.get? s.current = some .directory

instance (s : Session) : Decidable s.WellFormed :=
  decidable_of_iff (s.files.Rooted ∧ s.files.get? s.current = some .directory)
    ⟨fun h => ⟨h.1, h.2⟩, fun h => ⟨h.1, h.2⟩⟩

/-- A path leads to a file that has a text in UTF-8. -/
def Stores (s : Session) (p : Path) (markdown : CodeText) : Prop :=
  ∃ text, markdown = .ofText text ∧ s.files.look s.current p = .ok (.file (Utf8.encode text))

/-- A session becomes another one: its files grow, with writing at the given locations only, and apart
from them no more than the reports and requests is new. -/
structure Proceeds (w : Set Location) (s s' : Session) : Prop where
  surroundings : s'.surroundings = s.surroundings
  files : s.files.Grows w s'.files

namespace Proceeds

variable {s s' s'' : Session} {w w' : Set Location}

lemma of_unreported (h : s'.unreported = s.unreported) : s.Proceeds w s' := by
  have hfiles := congrArg Session.files h
  change s'.files = s.files at hfiles
  exact ⟨congrArg (fun t : Session => { t with files := .empty }) h, hfiles ▸ .refl _⟩

lemma refl (s : Session) : s.Proceeds w s :=
  of_unreported rfl

lemma trans (h : s.Proceeds w s') (h' : s'.Proceeds w s'') : s.Proceeds w s'' :=
  ⟨h'.surroundings.trans h.surroundings, h.files.trans h'.files⟩

lemma mono (h : s.Proceeds w s') (hw : w ⊆ w') : s.Proceeds w' s' :=
  ⟨h.surroundings, h.files.mono hw⟩

lemma current_eq (h : s.Proceeds w s') : s'.current = s.current := by
  have hcurrent := congrArg Session.current h.surroundings
  exact hcurrent

lemma output_eq (h : s.Proceeds w s') : s'.output = s.output := by
  have houtput := congrArg Session.output h.surroundings
  exact houtput

lemma complaints_eq (h : s.Proceeds w s') : s'.complaints = s.complaints := by
  have hcomplaints := congrArg Session.complaints h.surroundings
  exact hcomplaints

lemma locationOf_eq (h : s.Proceeds w s') (p : Path) : s'.locationOf p = s.locationOf p := by
  rw [locationOf, h.current_eq, h.files.resolveLocation_eq, locationOf]

lemma wellFormed (h : s.Proceeds w s') (hs : s.WellFormed) : s'.WellFormed :=
  ⟨h.files.rooted hs.rooted, by rw [h.current_eq]; exact (h.files.entry _).directory hs.current⟩

/-- A file is kept where nothing is written, and its path leads to it still. -/
lemma look_file (h : s.Proceeds w s') {p : Path} {content : Bytes} (hp : s.locationOf p ∉ w)
    (hlook : s.files.look s.current p = .ok (.file content)) :
    s'.files.look s'.current p = .ok (.file content) := by
  rw [FileTree.look_eq_file_iff] at hlook ⊢
  rw [h.current_eq, h.files.resolveLocation_eq]
  exact ⟨h.files.locate hlook.1, (h.files.fileAt?_eq hp).trans hlook.2⟩

/-- What a path leads to is kept where nothing is written. -/
lemma stores (h : s.Proceeds w s') {p : Path} {markdown : CodeText} (hp : s.locationOf p ∉ w)
    (hs : s.Stores p markdown) : s'.Stores p markdown := by
  obtain ⟨text, hmarkdown, hlook⟩ := hs
  exact ⟨text, hmarkdown, h.look_file hp hlook⟩

/-- A file that a path leads to is at the location that the path had from the beginning. -/
lemma fileAt?_of_look (h : s.Proceeds w s') {p : Path} {content : Bytes}
    (hlook : s'.files.look s'.current p = .ok (.file content)) :
    s'.files.fileAt? (s.locationOf p) = some content := by
  rw [← h.locationOf_eq]
  exact (FileTree.look_eq_file_iff.1 hlook).2

end Proceeds

/-- A text with lone surrogates was to be written to a file. The file was opened, and is empty; nothing
else was written. -/
structure Emptied (s : Session) (p : Path) (markdown : CodeText) (e : Failure) (s' : Session) :
    Prop where
  failure : ∃ run, markdown.scalars = .error run ∧ e = .fault (.unencodable run)
  proceeds : s.Proceeds {s.locationOf p} s'
  look : s'.files.look s'.current p = .ok (.file [])

end Session

/-- A failure is not about the specification of a batch, and not about lone surrogates in a text that
leaves the program. -/
def Failure.Ordinary (e : Failure) : Prop :=
  (∀ x, e ≠ .spec x) ∧ ∀ run, e ≠ .fault (.unencodable run)

namespace Run

variable {s s' : Session} {e : Failure} {p : Path} {markdown : CodeText} {content : Bytes} {u : Unit}
variable {r : Except SystemError Unit} {event : Event} {E : Failure → Prop}

lemma keeps_emit : (emit event).Keeps Session.unreported E :=
  keeps_modify fun s => by split <;> rfl

lemma gives_makeDirectories (h : (makeDirectories p).Gives s r s') :
    s' = { s with files := (s.files.makeDirectories s.current p).2 } := by
  have h' := (gives_guard_iff.1 h).2
  exact ((gives_modifyGet _ s).unique h').2.symm

lemma fails_makeDirectories (h : (makeDirectories p).Fails s e s') : s' = s ∧ e.Ordinary := by
  rcases fails_guard_iff.1 h with ⟨-, rfl, rfl⟩ | ⟨-, h⟩
  · exact ⟨rfl, by simp [Failure.Ordinary]⟩
  · exact absurd h (gives_modifyGet _ s).not_fails

lemma gives_writeBytes_iff : (writeBytes p content).Gives s u s' ↔ p.hasNull = false ∧
    ∃ files, s.files.writeFile s.current p content = .ok files ∧ s' = { s with files := files } := by
  refine gives_guard_iff.trans (and_congr (by simp) ?_)
  rw [gives_get_bind_iff]
  cases s.files.writeFile s.current p content with
  | error o => simp
  | ok files =>
    constructor
    · intro h
      exact ⟨files, rfl, ((gives_set s _).unique h).2.symm⟩
    · rintro ⟨_, ⟨⟩, rfl⟩
      exact gives_set s _

lemma fails_writeBytes (h : (writeBytes p content).Fails s e s') : s' = s ∧ e.Ordinary := by
  rcases fails_guard_iff.1 h with ⟨-, rfl, rfl⟩ | ⟨-, h⟩
  · exact ⟨rfl, by simp [Failure.Ordinary]⟩
  · rcases fails_bind_iff.1 h with h | ⟨t, t', ht, h⟩
    · exact absurd h not_fails_get
    · obtain ⟨rfl, rfl⟩ := gives_get_iff.1 ht
      cases hwrite : s.files.writeFile s.current p content with
      | error o =>
        simp only [hwrite, fails_throw_iff] at h
        obtain ⟨rfl, rfl⟩ := h
        exact ⟨rfl, by simp [Failure.Ordinary]⟩
      | ok files =>
        simp only [hwrite] at h
        exact absurd h (gives_set s _).not_fails

/-- Bytes that are written are in a file at the location of its path, which leads there. -/
lemma proceeds_of_writeBytes (hs : s.WellFormed) (h : (writeBytes p content).Gives s u s') :
    s.Proceeds {s.locationOf p} s' ∧ s'.files.look s'.current p = .ok (.file content) := by
  obtain ⟨-, files, hfiles, rfl⟩ := gives_writeBytes_iff.1 h
  obtain ⟨hg, hlook⟩ := FileTree.grows_of_writeFile hs.rooted hs.current hfiles
  exact ⟨⟨rfl, hg⟩, hlook⟩

lemma gives_writeText_iff : (writeText p markdown).Gives s u s' ↔
    ∃ text, markdown = .ofText text ∧ (writeBytes p (Utf8.encode text)).Gives s u s' := by
  rw [writeText]
  cases hscalars : markdown.scalars with
  | ok text =>
    obtain rfl := CodeText.scalars_eq_ok_iff.1 hscalars
    simp [CodeText.ofText_inj]
  | error run =>
    constructor
    · intro h
      obtain ⟨_, t, -, h⟩ := gives_bind_iff.1 h
      exact absurd h not_gives_throw
    · rintro ⟨text, rfl, -⟩
      simp at hscalars

/-- Where writing a text fails, nothing has changed, unless the text has lone surrogates: then the file
has been opened, and is empty. -/
lemma fails_writeText (h : (writeText p markdown).Fails s e s') :
    s' = s ∧ e.Ordinary ∨ ∃ run, markdown.scalars = .error run ∧ e = .fault (.unencodable run) ∧
      (writeBytes p []).Gives s () s' := by
  rw [writeText] at h
  split at h
  · exact .inl (fails_writeBytes h)
  · next run hscalars =>
    rcases fails_bind_iff.1 h with h | ⟨_, t, hwritten, h⟩
    · exact .inl (fails_writeBytes h)
    · obtain ⟨rfl, rfl⟩ := fails_throw_iff.1 h
      exact .inr ⟨run, hscalars, rfl, hwritten⟩

/-- Making the directories above a file changes no file. -/
lemma proceeds_of_makeDirectories {w : Set Location} (h : (makeDirectories p).Gives s r s') :
    s.Proceeds w s' := by
  rw [gives_makeDirectories h]
  exact ⟨rfl, FileTree.grows_makeDirectories _ _ _⟩

/-- Where writing fails, no file has changed, unless the text has lone surrogates: then the file is
there, and is empty. -/
lemma fails_writeFile (hs : s.WellFormed) (h : (writeFile markdown p).Fails s e s') :
    s.Proceeds ∅ s' ∧ e.Ordinary ∨ s.Emptied p markdown e s' := by
  rcases fails_bind_iff.1 h with h | ⟨r, t, hmade, h⟩
  · obtain ⟨rfl, he⟩ := fails_makeDirectories h
    exact .inl ⟨.refl _, he⟩
  have ht : s.Proceeds ∅ t := proceeds_of_makeDirectories hmade
  cases r with
  | error o =>
    obtain ⟨rfl, rfl⟩ := fails_throw_iff.1 h
    exact .inl ⟨ht, by simp [Failure.Ordinary]⟩
  | ok =>
    rcases fails_bind_iff.1 h with h | ⟨_, t', -, h⟩
    · rcases fails_writeText h with ⟨rfl, he⟩ | ⟨run, hrun, rfl, hwritten⟩
      · exact .inl ⟨ht, he⟩
      · obtain ⟨hwrite, hlook⟩ := proceeds_of_writeBytes (ht.wellFormed hs) hwritten
        rw [ht.locationOf_eq] at hwrite
        exact .inr ⟨⟨run, hrun, rfl⟩, (ht.mono (Set.empty_subset _)).trans hwrite, hlook⟩
    · exact absurd (keeps_emit (E := fun _ => False).of_fails h).2 id

/-- Writing changes the files and the reports, but not the variables, and does not fail about a batch. -/
lemma keeps_writeFile :
    (writeFile markdown p).Keeps Session.environment fun e => ∀ x, e ≠ .spec x := by
  have hmake : (makeDirectories p.parent).Keeps Session.environment fun e => ∀ x, e ≠ .spec x := by
    refine ⟨fun h => by rw [gives_makeDirectories h], fun h => ?_⟩
    obtain ⟨rfl, he⟩ := fails_makeDirectories h
    exact ⟨rfl, he.1⟩
  have hbytes (content : Bytes) :
      (writeBytes p content).Keeps Session.environment fun e => ∀ x, e ≠ .spec x := by
    constructor
    · intro s u s' h
      obtain ⟨-, files, -, rfl⟩ := gives_writeBytes_iff.1 h
      rfl
    · intro s e s' h
      obtain ⟨rfl, he⟩ := fails_writeBytes h
      exact ⟨rfl, he.1⟩
  have hwrite : (writeText p markdown).Keeps Session.environment fun e => ∀ x, e ≠ .spec x := by
    rw [writeText]
    split
    · exact hbytes _
    · exact (hbytes []).bind fun _ => keeps_throw (by simp)
  refine hmake.bind fun made => ?_
  cases made with
  | error => exact keeps_throw (by simp)
  | ok => exact hwrite.bind fun _ => keeps_emit.comp Session.environment

/-- A text that is written is one of characters; it is in a file at the location of its path, which
leads there. -/
lemma gives_writeFile (hs : s.WellFormed) (h : (writeFile markdown p).Gives s u s') :
    s.Proceeds {s.locationOf p} s' ∧ s'.Stores p markdown := by
  obtain ⟨r, t, hmade, h⟩ := gives_bind_iff.1 h
  have ht : s.Proceeds {s.locationOf p} t := proceeds_of_makeDirectories hmade
  cases r with
  | error o => exact absurd h not_gives_throw
  | ok =>
    obtain ⟨_, t', hwritten, hemit⟩ := gives_bind_iff.1 h
    obtain ⟨text, rfl, hbytes⟩ := gives_writeText_iff.1 hwritten
    obtain ⟨hwrite, hlook⟩ := proceeds_of_writeBytes (ht.wellFormed hs) hbytes
    rw [ht.locationOf_eq] at hwrite
    have hreport : t'.Proceeds ∅ s' :=
      .of_unreported ((keeps_emit (E := fun _ => False)).of_gives hemit)
    exact ⟨(ht.trans hwrite).trans (hreport.mono (Set.empty_subset _)), text, rfl,
      hreport.look_file (Set.notMem_empty _) hlook⟩

end Run

end Wikidown
