import Mathlib
import Wikidown.Proofs.AbsolutePaths
import Wikidown.Proofs.Utf8
import Wikidown.Proofs.WrittenPaths
import Wikidown.Yaml.Value

/-!
# Reading back what was written

Markdown that was written to a file is read from it as it was, character by character: breaks, null
characters and a mark of the byte order in front are nothing special, and the path leads to the same file
in both ways (`Run.deliver_readBack`). The path is absolute, so it is not one of a remote object and has
no home directory, and it does not matter where the session stands.
-/

namespace Wikidown

/-- A remote object has no absolute path. -/
lemma Address.isRemote_of_isAbsolute {source : String} (h : (Path.ofString source).isAbsolute = true) :
    isRemote source = false := by
  rw [Path.isAbsolute_ofString_iff] at h
  rw [isRemote, Bool.eq_false_iff, Ne, List.isPrefixOf_iff_prefix]
  rintro ⟨r, hr⟩
  simp [← hr, scheme] at h

namespace Run

variable {s s' : Session} {p : Path} {text : Text} {markdown : CodeText} {source : String} {u : Unit}
variable {c : Config}

lemma hasNull_of_gives_writeFile (h : (writeFile markdown p).Gives s u s') : p.hasNull = false := by
  obtain ⟨r, t, -, h⟩ := gives_bind_iff.1 h
  cases r with
  | error e => exact absurd h not_gives_throw
  | ok =>
    obtain ⟨_, _, hwrite, -⟩ := gives_bind_iff.1 h
    obtain ⟨text, -, hbytes⟩ := gives_writeText_iff.1 hwrite
    exact (gives_writeBytes_iff.1 hbytes).1

/-- The text of a file in UTF-8 is read along an absolute path. -/
lemma gives_sourceText_of_look (habs : (Path.ofString source).isAbsolute = true)
    (hnull : (Path.ofString source).hasNull = false)
    (hlook : s.files.look s.current (Path.ofString source) = .ok (.file (Utf8.encode text))) :
    ∃ t, (sourceText c "UTF-8" source).Gives s (.ofText text) t ∧ t.unreported = s.unreported := by
  have hbytes : (sourceBytes c source).Gives s (Utf8.encode text) s := by
    rw [sourceBytes, Address.isRemote_of_isAbsolute habs, expandHome_of_isAbsolute habs]
    exact gives_readLocal_iff.2 ⟨hnull, hlook, rfl⟩
  have hreport := gives_modify (fun s : Session =>
    if s.threshold ≤ (Event.read source "UTF-8" (CodeText.ofText text).length).level.number then
      { s with events := s.events ++ [Event.read source "UTF-8" (CodeText.ofText text).length] }
    else s) s
  refine ⟨_, gives_bind_iff.2 ⟨_, s, hbytes, gives_bind_iff.2 ⟨.ofText text, s,
    gives_ofExcept_iff.2 ⟨decodeSource_encode text source, rfl⟩, gives_bind_iff.2 ⟨(), _, hreport,
      gives_pure_iff.2 ⟨rfl, rfl⟩⟩⟩⟩, ?_⟩
  exact (keeps_emit (E := fun _ => False)).of_gives hreport

/-- Markdown that was written to a file with an absolute path is the text that is then read from it, by
every name that writes the path, and by the one that the path has itself. -/
theorem deliver_readBack (hr : s.files.Rooted) (hp : p.Clean) (habs : p.isAbsolute = true)
    (h : (deliver (.ofText text) (some p)).Gives s () s') (c : Config) : Path.ofString p.toString = p ∧
    ∀ source, Path.ofString source = p →
      ∃ t, (sourceText c "UTF-8" source).Gives s' (.ofText text) t ∧ t.unreported = s'.unreported := by
  refine ⟨hp.ofString_toString, fun source hsource => ?_⟩
  subst hsource
  -- seen from the root, the session stands in a directory that is there
  have hroot : (s.moved []).WellFormed := ⟨hr, FileTree.get?_nil⟩
  obtain ⟨-, text', htext, hlook⟩ := gives_writeFile hroot (gives_writeFile_moved habs h)
  obtain rfl := CodeText.ofText_inj.1 htext
  rw [FileTree.look_of_isAbsolute _ _ s'.current habs] at hlook
  exact gives_sourceText_of_look habs (hasNull_of_gives_writeFile h) hlook

/-- A session that has no current directory, with a link on the way to the file that is written. -/
def linkedSession (files : List (Location × Entry)) : Session where
  files := ⟨[(["d"], .directory), (["l"], .link "/d/../d")] ++ files⟩
  current := ["gone"]
  environment := []
  ownHome := none
  homes := []
  objects := none
  yaml := Yaml.read
  threshold := 100
  output := ""
  complaints := ""
  events := []
  requests := []

/-- A mark of the byte order, breaks of all kinds and a null character, in a directory that is made. -/
theorem deliver_readBack_marked :
    let text := ['\ufeff', 'ö', '\r', '\n', '\r', '\n', '\n', '\x00', '😀']
    let files := [(["d", "n"], .directory), (["d", "n", "x.md"], .file (Utf8.encode text))]
    (deliver (.ofText text) (some ⟨.doubleRoot, ["l", "n", "x.md"]⟩)).Gives (linkedSession []) ()
      (linkedSession files) ∧
    ∃ t, (sourceText ⟨"latin1", false, .warning, none, none⟩ "UTF-8" "//l//n/./x.md").Gives
      (linkedSession files) (.ofText text) t := by
  intro text files
  have hwrite : (deliver (.ofText text) (some ⟨.doubleRoot, ["l", "n", "x.md"]⟩)).Gives
      (linkedSession []) () (linkedSession files) := by cbv
  have hread := deliver_readBack (by decide) (by decide) rfl hwrite
    ⟨"latin1", false, .warning, none, none⟩
  obtain ⟨t, ht, -⟩ := hread.2 "//l//n/./x.md" (by cbv)
  exact ⟨hwrite, t, ht⟩

end Run

end Wikidown
