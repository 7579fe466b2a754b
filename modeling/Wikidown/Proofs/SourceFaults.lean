import Wikidown.Proofs.Encodings
import Wikidown.Proofs.Sources
import Wikidown.Proofs.WrittenPaths
import Wikidown.Yaml.Value

/-!
# Faults of sources

A source that is read under an accepted encoding gives a text, or the failure says that it cannot be
read, or there is a fault (`Run.sourceText_result`). The system may not find a file, or hide it because
a path or a name in it is too long or a directory on the way is barred; the remote store has an object
or has none. As far as that goes, the faults are these (`Slips`): a path that begins with a home
directory that is not known, or with a null character in the name of the account, a file that is hidden,
and bytes that a codec refuses as a whole.
-/

namespace Wikidown

/-- The first name of a path, if it begins with a tilde. -/
def Path.tilde? (p : Path) : Option String :=
  match p.anchor, p.names with
  | .here, n :: _ => if n.startsWith "~" then some n else none
  | _, _ => none

namespace Session

/-- The directory that is named as the home directory for a name with a tilde. -/
def homeOf? (s : Session) (name : String) : Option String :=
  if name = "~" then s.environment.lookup "HOME" <|> s.ownHome
  else s.homes.lookup (String.ofList name.toList.tail)

/-- A path begins with a tilde and has no home directory. The name of the account holds a null character,
no home directory is named for it, or the one that is named begins with a tilde as well. -/
inductive Homeless (s : Session) (p : Path) : Fault → Prop
  | nullInName {n : String} (hn : p.tilde? = some n) (h : '\x00' ∈ n.toList) :
    Homeless s p .nullInPath
  | unknown {n : String} (hn : p.tilde? = some n) (hnull : '\x00' ∉ n.toList)
    (h : ∀ d ∈ s.homeOf? n, (Run.withoutSlashes d).startsWith "~" = true) :
    Homeless s p .unknownHome

/-- The bytes that a source holds: those of the object with its address, or those of the file that its
path leads to. -/
inductive Holds (s : Session) (source : String) (content : Bytes) : Prop
  | object {a : Address} {objects : List ((String × String) × Bytes)}
    (hremote : Address.isRemote source = true) (ha : Address.parse source = .ok a)
    (hobjects : s.objects = some objects)
    (h : objects.lookup (a.bucket, a.key) = some content) : Holds s source content
  | file {p : Path} (hlocal : Address.isRemote source = false) (h : s.FileAt source p content) :
    Holds s source content

end Session

/-- Faults that are met as a source is read under an encoding. -/
inductive Slips (s : Session) (charset source : String) : Fault → Prop
  | homeless {f : Fault} (hlocal : Address.isRemote source = false)
    (h : s.Homeless (Path.ofString source) f) : Slips s charset source f
  | hidden {p : Path} {o : Obstacle} (hp : s.Reads source p) (hnull : p.hasNull = false)
    (h : s.files.look s.current p = .error o) (hhides : o.hides = true) :
    Slips s charset source (.system ⟨o, p⟩)
  | refusingCodec {content : Bytes} {decode : Bytes → Except Undecodable CodeText} {r : Refusal}
    (hcontent : s.Holds source content) (hne : content ≠ [])
    (hencoding : Charset.encodingOf charset ∈ Codec.refusing)
    (hfind : Charset.find? charset = some (.text decode)) (h : decode content = .error (.refused r)) :
    Slips s charset source (.refusingCodec charset r)

/-- A name that is too long is refused before it is looked for. -/
lemma FileTree.look_of_long {t : FileTree} {cwd : Location} {n : String} (hn : Proper n)
    (hcwd : t.get? cwd = some .directory) (hlong : maxName < byteLength n) :
    t.look cwd ⟨.here, [n]⟩ = .error .nameTooLong := by
  rw [look, locate]
  split_ifs
  · rfl
  · have hstart : start cwd ⟨.here, [n]⟩ = cwd := rfl
    rw [hstart, walk, hcwd]
    dsimp only
    rw [if_neg hn.1, if_neg hn.2, if_neg (by simp), if_pos hlong]
    rfl

namespace Run

variable {s t : Session} {c : Config} {p : Path} {name source charset origin written : String}
variable {content : Bytes} {e : Failure} {f : Fault}

/-! ## Home directories -/

/-- A name for the root is no name with a tilde. -/
lemma startsWith_rooted (d : String) :
    (if d = "" then "/" else d).startsWith "~" = d.startsWith "~" := by
  split_ifs with hd
  · subst hd
    decide +kernel
  · rfl

lemma fails_home_iff : (home name).Fails s e t ↔
    ('\x00' ∈ name.toList ∧ .fault .nullInPath = e ∨ '\x00' ∉ name.toList ∧
      (∀ d ∈ s.homeOf? name, (withoutSlashes d).startsWith "~" = true) ∧ .fault .unknownHome = e) ∧
    s = t := by
  rw [home, refuse, fails_guard_iff, fails_get_bind_iff, String.contains_char_eq, decide_eq_true_eq,
    or_and_right, and_assoc, and_assoc]
  refine or_congr_right (and_congr_right fun _ => ?_)
  cases hhome : s.homeOf? name with
  | none =>
    rw [Session.homeOf?] at hhome
    simp only [hhome]
    simp [refuse]
  | some d =>
    rw [Session.homeOf?] at hhome
    simp only [hhome, startsWith_rooted, Option.mem_some_iff, forall_eq']
    cases (withoutSlashes d).startsWith "~" with
    | false => simp
    | true => simp [refuse]

/-- A home directory takes the place of the first name. -/
lemma expandHome_eq : expandHome p = match p.tilde? with
    | none => pure p
    | some n => home n >>= fun d => pure ((Path.ofString d).append p.names.tail) := by
  obtain ⟨anchor, names⟩ := p
  cases anchor with
  | root | doubleRoot => rfl
  | here =>
    cases names with
    | nil => rfl
    | cons n rest =>
      simp only [expandHome, Path.tilde?]
      split_ifs <;> rfl

/-- Where a path has no home directory it has no meaning, and nowhere else. -/
lemma fails_expandHome_iff :
    (expandHome p).Fails s e t ↔ (∃ f, s.Homeless p f ∧ .fault f = e) ∧ s = t := by
  rw [expandHome_eq]
  cases hn : p.tilde? with
  | none =>
    refine ⟨fun h => absurd h not_fails_pure, ?_⟩
    rintro ⟨⟨f, ⟨hn'⟩ | ⟨hn'⟩, -⟩, -⟩ <;> simp [hn] at hn'
  | some n =>
    simp only [fails_bind_iff, not_fails_pure, and_false, exists_false, or_false, fails_home_iff]
    refine and_congr_left fun _ => ⟨?_, ?_⟩
    · rintro (⟨hnull, he⟩ | ⟨hnull, hd, he⟩)
      · exact ⟨_, .nullInName hn hnull, he⟩
      · exact ⟨_, .unknown hn hnull hd, he⟩
    · rintro ⟨f, ⟨hn', hnull⟩ | ⟨hn', hnull, hd⟩, he⟩
      all_goals obtain rfl := Option.some.inj (hn.symm.trans hn')
      · exact .inl ⟨hnull, he⟩
      · exact .inr ⟨hnull, hd, he⟩

/-! ## The bytes of a source -/

/-- A file cannot be read, or it is hidden by the system. -/
lemma fails_readLocal (h : (readLocal p).Fails s e t) : e.InReading ∨
    p.hasNull = false ∧ ∃ o : Obstacle, s.files.look s.current p = .error o ∧ o.hides = true ∧
      e = .fault (.system ⟨o, p⟩) := by
  rcases fails_guard_iff.1 h with ⟨-, rfl, -⟩ | ⟨hnull, h⟩
  · exact .inl (.inr ⟨_, rfl⟩)
  rw [fails_get_bind_iff] at h
  split at h
  · exact absurd h not_fails_pure
  · exact .inl (.inr ⟨_, (fails_throw_iff.1 h).1.symm⟩)
  · exact .inl (.inr ⟨_, (fails_throw_iff.1 h).1.symm⟩)
  · rename_i o hlook
    split_ifs at h with hhides
    · exact .inr ⟨by simpa using hnull, o, hlook, hhides, (fails_throw_iff.1 h).1.symm⟩
    · exact .inl (.inr ⟨_, (fails_throw_iff.1 h).1.symm⟩)

lemma fails_readLocal_of_look {o : Obstacle} (hnull : p.hasNull = false)
    (h : s.files.look s.current p = .error o) (hhides : o.hides = true) :
    (readLocal p).Fails s (.fault (.system ⟨o, p⟩)) s := by
  refine fails_guard_iff.2 (.inr ⟨by simp [hnull], fails_get_bind_iff.2 ?_⟩)
  simp only [h, hhides, if_true]
  exact fails_throw_iff.2 ⟨rfl, rfl⟩

/-- The bytes of a source cannot be read, or there is a fault. -/
lemma fails_sourceBytes (h : (sourceBytes c source).Fails s e t) :
    e.InReading ∨ ∃ f, Slips s charset source f ∧ e = .fault f := by
  rw [sourceBytes] at h
  split_ifs at h with hremote
  · rcases fails_bind_iff.1 h with hparse | ⟨a, u, -, hread⟩
    · exact .inl (Address.parse_inReading (fails_ofExcept_iff.1 hparse).1)
    · exact .inl (keeps_readRemote.of_fails hread).2
  · have hlocal : Address.isRemote source = false := by simpa using hremote
    rcases fails_bind_iff.1 h with hexpand | ⟨p, u, hexpand, hread⟩
    · obtain ⟨⟨f, hhome, rfl⟩, -⟩ := fails_expandHome_iff.1 hexpand
      exact .inr ⟨f, .homeless hlocal hhome, rfl⟩
    · obtain rfl : u = s := (keeps_expandHome (v := id)).of_gives hexpand
      rcases fails_readLocal hread with he | ⟨hnull, o, hlook, hhides, rfl⟩
      · exact .inl he
      · exact .inr ⟨_, .hidden ⟨hlocal, hexpand⟩ hnull hlook hhides, rfl⟩

/-- Reading a source gives the bytes that it holds. -/
lemma gives_sourceBytes_iff :
    (∃ t, (sourceBytes c source).Gives s content t) ↔ s.Holds source content := by
  rw [sourceBytes]
  split_ifs with hremote
  · constructor
    · rintro ⟨t, h⟩
      obtain ⟨a, u, hparse, hread⟩ := gives_bind_iff.1 h
      obtain ⟨ha, rfl⟩ := gives_ofExcept_iff.1 hparse
      obtain ⟨objects, hobjects, hlookup⟩ := gives_readRemote hread
      exact .object hremote ha hobjects hlookup
    · intro h
      cases h with
      | object _ ha hobjects hlookup =>
        obtain ⟨t, ht⟩ := exists_gives_readRemote hobjects hlookup
        exact ⟨t, gives_bind_iff.2 ⟨_, s, gives_ofExcept_iff.2 ⟨ha, rfl⟩, ht⟩⟩
      | file hlocal => exact absurd hlocal (by simp [hremote])
  · have hlocal : Address.isRemote source = false := by simpa using hremote
    constructor
    · rintro ⟨t, h⟩
      obtain ⟨p, u, hexpand, hread⟩ := gives_bind_iff.1 h
      obtain rfl : u = s := (keeps_expandHome (v := id)).of_gives hexpand
      obtain ⟨hnull, hlook, -⟩ := gives_readLocal_iff.1 hread
      exact .file hlocal ⟨hexpand, hnull, hlook⟩
    · intro h
      cases h with
      | object hremote' => exact absurd hremote' hremote
      | file _ h =>
        exact ⟨s, gives_bind_iff.2 ⟨_, s, h.expands, gives_readLocal_iff.2 ⟨h.null, h.look, rfl⟩⟩⟩

/-! ## The text of a source -/

/-- A codec that refuses some bytes as a whole is one of a few. -/
lemma encodingOf_mem_refusing {decode : Bytes → Except Undecodable CodeText} {r : Refusal}
    (hnull : '\x00' ∉ charset.toList) (hfind : Charset.find? charset = some (.text decode))
    (hne : content ≠ []) (h : decode content = .error (.refused r)) :
    Charset.encodingOf charset ∈ Codec.refusing := by
  have hname := (Charset.find?_eq_some_iff.1 hfind).2
  rcases Codec.ofName?_eq_some_iff.1 hname with hlookup | ⟨-, htransform⟩
  · by_contra hplain
    have hjudged : Judged content charset "" :=
      judged_of_isPlain hnull hfind (Codec.isPlain_of_lookup hlookup hplain)
    rw [Judged, decodeSource_eq_of_find? hnull hne hfind, h] at hjudged
    rcases hjudged with ⟨text, ht⟩ | ⟨flaw, start, ht⟩ <;> simp [Except.mapError] at ht
  · exact absurd htransform (by simp)

/-- The text of a source cannot be read, or there is a fault. -/
lemma fails_sourceText (hnull : '\x00' ∉ charset.toList)
    (h : (sourceText c charset source).Fails s e t) :
    e.InReading ∨ ∃ f, Slips s charset source f ∧ e = .fault f := by
  rcases fails_bind_iff.1 h with hbytes | ⟨content, u, hbytes, htext⟩
  · exact fails_sourceBytes hbytes
  rcases fails_bind_iff.1 htext with hdecode | ⟨text, v, -, hbehind⟩
  · rcases decodeSource_eq_error (fails_ofExcept_iff.1 hdecode).1 with
      he | ⟨hnull', -⟩ | ⟨decode, r, hne, hfind, hr, rfl⟩
    · exact .inl he
    · exact absurd hnull' hnull
    · exact .inr ⟨_, .refusingCodec (gives_sourceBytes_iff.1 ⟨u, hbytes⟩) hne
        (encodingOf_mem_refusing hnull hfind hne hr) hfind hr, rfl⟩
  · have hreport : (emit (.read source charset text.length) >>= fun _ =>
        (pure text : Run CodeText)).Keeps Session.unreported fun _ => False :=
      keeps_emit.bind fun _ => keeps_pure
    exact absurd (hreport.of_fails hbehind).2 id

/-- Each of the faults is met. -/
lemma fails_sourceText_of_slips (hnull : '\x00' ∉ charset.toList) (h : Slips s charset source f) :
    ∃ t, (sourceText c charset source).Fails s (.fault f) t := by
  cases h with
  | homeless hlocal hhome =>
    refine ⟨s, fails_bind_iff.2 (.inl ?_)⟩
    rw [sourceBytes, hlocal]
    exact fails_bind_iff.2 (.inl (fails_expandHome_iff.2 ⟨⟨f, hhome, rfl⟩, rfl⟩))
  | hidden hp hpath hlook hhides =>
    refine ⟨s, fails_bind_iff.2 (.inl ?_)⟩
    rw [sourceBytes, hp.1]
    exact fails_bind_iff.2 (.inr ⟨_, s, hp.2, fails_readLocal_of_look hpath hlook hhides⟩)
  | refusingCodec hholds hne _ hfind hr =>
    obtain ⟨t, ht⟩ := gives_sourceBytes_iff.2 hholds
    refine ⟨t, fails_bind_iff.2 (.inr ⟨_, t, ht, fails_bind_iff.2 (.inl ?_)⟩)⟩
    rw [decodeSource_eq_of_find? hnull hne hfind, hr]
    exact fails_ofExcept_iff.2 ⟨rfl, rfl⟩

/-- A session without files, variables and accounts. -/
def bareSession : Session where
  files := ⟨[]⟩
  current := []
  environment := []
  ownHome := none
  homes := []
  objects := none
  yaml := Yaml.read
  threshold := 0
  output := ""
  complaints := ""
  events := []
  requests := []

/-- The settings that there are without variables, apart from the encoding. -/
def bareConfig : Config :=
  ⟨"latin1", false, .warning, none, none⟩

/-- A file whose name is too long for the system is not said to be missing. -/
lemma slips_of_long {n : String} (hname : Path.IsName n) (hup : n ≠ "..") (htilde : '~' ∉ n.toList)
    (hnull : '\x00' ∉ n.toList) (hcurrent : s.files.get? s.current = some .directory)
    (hlong : FileTree.maxName < FileTree.byteLength n) :
    Slips s charset n (.system ⟨.nameTooLong, ⟨.here, [n]⟩⟩) := by
  have hclean : (Path.mk .here [n]).Clean := by simpa [Path.Clean] using hname
  have hpath : Path.ofString n = ⟨.here, [n]⟩ := by
    simpa [Path.toString, Path.anchorText] using hclean.ofString_toString
  have hlocal : Address.isRemote n = false := by
    rw [Address.isRemote, Bool.eq_false_iff, Ne, List.isPrefixOf_iff_prefix]
    exact fun hscheme => hname.2.2 (hscheme.subset (by decide))
  have hstarts : n.startsWith "~" = false := by
    rw [Bool.eq_false_iff, Ne, String.startsWith_string_iff]
    exact fun h => htilde (h.subset (by decide))
  have hexpand : (expandHome (Path.ofString n)).Gives s ⟨.here, [n]⟩ s := by
    simp [hpath, expandHome, hstarts]
  have hproper : FileTree.Proper n := ⟨not_or.2 ⟨hname.2.1, hname.1⟩, hup⟩
  exact .hidden ⟨hlocal, hexpand⟩ (by simpa [Path.hasNull] using hnull)
    (FileTree.look_of_long hproper hcurrent hlong) rfl

/-- A name that is too long by one character. -/
def longName : String :=
  String.ofList (List.replicate (FileTree.maxName + 1) 'n')

end Run

end Wikidown
