import Wikidown.Markup.Rule
import Wikidown.Proofs.Reading

/-!
# The spans of each pattern

One lemma for each pattern: the source of a span that was read, written with what was captured of
it. A rule's effect on the characters of a text follows from these shapes, because everything
between two spans stays as it is.
-/

namespace Wikidown

namespace Pattern

/-- A span between two markers is the opening, what was captured, and the closing. -/
lemma between_source {c : Char} {m closing : Text} {inside : Char → Bool} {b : Option Char}
    {s : Text} {p : Span Text} (h : (between c m inside closing).read b s = some p) :
    p.source = c :: m ++ p.captured ++ closing :=
  (read_between_iff.1 h).2.1

lemma around_source {c : Char} {m closing : Text} {inside : Char → Bool} {b : Option Char}
    {s : Text} {p : Span Text} (h : (around c m inside closing).read b s = some p) :
    p.source = c :: m ++ p.captured ++ closing :=
  between_source (read_around_iff.1 h).1

/-- What a span around some text is, if the text cannot go on with the closing. -/
lemma read_around_eq_some_iff {c k : Char} {m ks a x v : Text} {inside : Char → Bool}
    {b : Option Char} (hk : inside k = false) :
    (around c m inside (k :: ks)).read b (a ++ v) = some ⟨a, x, v⟩ ↔
      a = c :: m ++ x ++ k :: ks ∧ x ≠ [] ∧ ∀ y ∈ x, inside y = true := by
  rw [read_around_iff, read_between_iff]
  simp only [List.cons_append, List.takeWhile_cons, hk]
  tauto

lemma opensWith_around {c : Char} {m closing : Text} {inside : Char → Bool} :
    (around c m inside closing).OpensWith [c] :=
  fun _ _ _ h => ⟨c, List.mem_singleton_self c, by simp [around_source h]⟩

lemma opensWith_marker {c : Char} {m : Text} : (marker c m).OpensWith [c] :=
  fun _ _ _ h => ⟨c, List.mem_singleton_self c, by simp [(read_marker_iff.1 h).2]⟩

end Pattern

namespace Markup

open Pattern

variable {b : Option Char} {s : Text}

lemma quotedLine_source {m : Span Text} (h : quotedLine.read b s = some m) :
    m.source = "bq.".toList ++ m.captured := by
  rw [between_source (read_atLineStart_iff.1 h).1]
  simp

lemma opensWith_quotedLine : quotedLine.OpensWith ['b'] :=
  fun _ _ _ h => ⟨'b', by simp, by simp [quotedLine_source h]⟩

lemma emphasis_source {d : Char} {m : Span Text} (h : (emphasis d).read b s = some m) :
    m.source = d :: m.captured ++ [d] := by
  rw [around_source (read_filter_iff.1 h).1]
  rfl

lemma opensWith_emphasis {d : Char} : (emphasis d).OpensWith [d] :=
  fun _ _ _ h => ⟨d, List.mem_singleton_self d, by simp [emphasis_source h]⟩

lemma strongSpan_source {m : Span Text} (h : strongSpan.read b s = some m) :
    ∃ d, (d = '*' ∨ d = '_') ∧ m.source = d :: m.captured ++ [d] := by
  rcases read_orElse_iff.1 h with h | ⟨-, h⟩
  · exact ⟨'*', .inl rfl, emphasis_source h⟩
  · exact ⟨'_', .inr rfl, emphasis_source h⟩

lemma opensWith_strongSpan : strongSpan.OpensWith ['*', '_'] := by
  intro b s m h
  obtain ⟨d, hd, hs⟩ := strongSpan_source h
  exact ⟨d, by simpa using hd, by simp [hs]⟩

lemma forall_ne_iff {d : Char} {c : Text} : (∀ x ∈ c, (x != d) = true) ↔ d ∉ c := by
  simp only [bne_iff_ne]
  exact ⟨fun h hd => h d hd rfl, fun h x hx hxd => h (hxd ▸ hx)⟩

lemma forall_lineRun_iff {d : Char} {c : Text} : (∀ x ∈ c, lineRun d x = true) ↔ d ∉ c ∧ '\n' ∉ c := by
  simp only [lineRun, Bool.and_eq_true, forall_and, forall_ne_iff]

lemma read_delimited_iff {d : Char} {b : Option Char} {a x v : Text} :
    (delimited d).read b (a ++ v) = some ⟨a, x, v⟩ ↔
      a = d :: x ++ [d] ∧ x ≠ [] ∧ d ∉ x ∧ '\n' ∉ x := by
  rw [delimited, read_around_eq_some_iff (by simp [lineRun]), forall_lineRun_iff]
  rfl

lemma deletedSpan_source {m : Span Text} (h : deletedSpan.read b s = some m) :
    m.source = '-' :: m.captured ++ ['-'] := by
  rw [around_source (read_filter_iff.1 h).1]
  rfl

lemma opensWith_deletedSpan : deletedSpan.OpensWith ['-'] :=
  fun _ _ _ h => ⟨'-', by simp, by simp [deletedSpan_source h]⟩

lemma listItem_source {m : Span (Text × Text)} (h : listItem.read b s = some m) :
    m.captured.1 ≠ [] ∧ (∀ x ∈ m.captured.1, isListMark x = true) ∧
      m.source = m.captured.1 ++ ' ' :: m.captured.2 := by
  obtain ⟨h, -⟩ := read_atLineStart_iff.1 h
  simp only at h
  split at h
  · cases h
  · next hrun =>
    obtain ⟨t, -, rfl⟩ := Option.map_eq_some_iff.1 h
    refine ⟨hrun, List.all_eq_true.1 List.all_takeWhile, ?_⟩
    simp

lemma headerLine_source {m : Span (Nat × Text)} (h : headerLine.read b s = some m) :
    ∃ d, headerLevel? d = some m.captured.1 ∧ m.source = 'h' :: d :: '.' :: m.captured.2 := by
  obtain ⟨h, -⟩ := read_atLineStart_iff.1 h
  simp only at h
  split at h
  · next d t _ =>
    obtain ⟨n, hn, rfl⟩ := Option.map_eq_some_iff.1 h
    exact ⟨d, hn, rfl⟩
  · cases h

/-- The opening marker of a code block names a language, or none. -/
lemma codeOpening?_eq_some_iff {l o r : Text} : codeOpening? s = some (l, o, r) ↔ s = o ++ r ∧
    (l = [] ∧ o = "\x7bcode\x7d".toList ∨
      l ≠ [] ∧ (∀ x ∈ l, isLanguageChar x = true) ∧ o = "\x7bcode:".toList ++ l ++ "\x7d".toList) := by
  constructor
  · intro h
    refine ⟨(codeOpening?_splits h).2, ?_⟩
    obtain ⟨t, -, h⟩ := Option.bind_eq_some_iff.1 h
    split at h
    · cases h
      exact .inl ⟨rfl, rfl⟩
    · obtain ⟨u, -, h⟩ := Option.bind_eq_some_iff.1 h
      simp only at h
      split at h
      · cases h
      · next hne =>
        obtain ⟨r', -, e⟩ := Option.map_eq_some_iff.1 h
        cases e
        exact .inr ⟨hne, List.all_eq_true.1 List.all_takeWhile, rfl⟩
  · have hclose : Text.after? "\x7d".toList (['\x7d'] ++ r) = some r := rfl
    rintro ⟨rfl, ⟨rfl, rfl⟩ | ⟨hne, hl, rfl⟩⟩
    · have hopen : Text.after? "\x7bcode".toList ("\x7bcode\x7d".toList ++ r) =
          some (['\x7d'] ++ r) := rfl
      rw [codeOpening?, hopen, Option.bind_some, hclose]
    · have hbrace : (['\x7d'] ++ r).takeWhile isLanguageChar = [] := rfl
      have hopen : Text.after? "\x7bcode".toList
          ("\x7bcode:".toList ++ l ++ "\x7d".toList ++ r) = some (':' :: (l ++ (['\x7d'] ++ r))) :=
        Text.after?_eq_some_iff.2 (by simp)
      have hplain : Text.after? "\x7d".toList (':' :: (l ++ (['\x7d'] ++ r))) = none := rfl
      have hcolon : Text.after? ":".toList (':' :: (l ++ (['\x7d'] ++ r))) =
          some (l ++ (['\x7d'] ++ r)) := rfl
      rw [codeOpening?, hopen, Option.bind_some, hplain]
      simp only [hcolon, Option.bind_some, Text.takeWhile_append_of_stop hl hbrace,
        Text.dropWhile_append_of_stop hl hbrace, if_neg hne, hclose, Option.map_some]

lemma codeBlock_source {m : Span (Text × Text)} (h : codeBlock.read b s = some m) :
    ∃ o, (o = "\x7bcode".toList ++ "\x7d".toList ∧ m.captured.1 = [] ∨
        o = "\x7bcode:".toList ++ m.captured.1 ++ "\x7d".toList) ∧
      m.source = o ++ m.captured.2 ++ "\x7bcode\x7d".toList := by
  obtain ⟨⟨l, o, t⟩, ho, h⟩ := Option.bind_eq_some_iff.1 h
  obtain ⟨⟨c, r⟩, -, rfl⟩ := Option.map_eq_some_iff.1 h
  refine ⟨o, ?_, rfl⟩
  exact (codeOpening?_eq_some_iff.1 ho).2.imp And.symm fun ⟨_, _, h⟩ => h

lemma opensWith_codeBlock : codeBlock.OpensWith ['\x7b'] := by
  intro b s m h
  obtain ⟨o, ⟨rfl, -⟩ | rfl, hs⟩ := codeBlock_source h <;> exact ⟨'\x7b', by simp, by simp [hs]⟩

lemma quoteBlock_source {m : Span Text} (h : quoteBlock.read b s = some m) :
    m.source = "\x7bquote\x7d".toList ++ m.captured ++ "\x7bquote\x7d".toList := by
  obtain ⟨t, -, h⟩ := Option.bind_eq_some_iff.1 h
  obtain ⟨⟨c, r⟩, -, rfl⟩ := Option.map_eq_some_iff.1 h
  rfl

lemma opensWith_quoteBlock : quoteBlock.OpensWith ['\x7b'] :=
  fun _ _ _ h => ⟨'\x7b', by simp, by simp [quoteBlock_source h]⟩

lemma colorSpan_source {m : Span (Text × Text)} (h : colorSpan.read b s = some m) :
    m.source = "\x7bcolor:".toList ++ m.captured.1 ++ "\x7d".toList ++ m.captured.2 ++
      "\x7bcolor\x7d".toList := by
  obtain ⟨o, ho, h⟩ := Option.bind_eq_some_iff.1 h
  obtain ⟨⟨c, r⟩, -, rfl⟩ := Option.map_eq_some_iff.1 h
  simp [around_source ho]

lemma opensWith_colorSpan : colorSpan.OpensWith ['\x7b'] :=
  fun _ _ _ h => ⟨'\x7b', by simp, by simp [colorSpan_source h]⟩

lemma pipedLink_source {m : Span (Text × Text)} (h : pipedLink.read b s = some m) :
    m.source = '[' :: m.captured.1 ++ '|' :: m.captured.2 ++ [']'] := by
  obtain ⟨l, hl, h⟩ := Option.bind_eq_some_iff.1 h
  simp only at h
  split at h
  · cases h
  · obtain ⟨r, -, rfl⟩ := Option.map_eq_some_iff.1 h
    simp [around_source hl]

lemma opensWith_pipedLink : pipedLink.OpensWith ['['] :=
  fun _ _ _ h => ⟨'[', by simp, by simp [pipedLink_source h]⟩

lemma bareLink_source {m : Span Text} (h : bareLink.read b s = some m) :
    m.source = '[' :: m.captured ++ [']'] := by
  rw [around_source (read_filter_iff.1 h).1]
  rfl

lemma opensWith_bareLink : bareLink.OpensWith ['['] :=
  fun _ _ _ h => ⟨'[', by simp, by simp [bareLink_source h]⟩

end Markup

end Wikidown
