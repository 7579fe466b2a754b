import Wikidown.Proofs.Lines
import Wikidown.Proofs.Segments

/-!
# Plain texts

A plain text holds no mark of markup, and none of its lines begins as a quoted line or as a header.
Spans that are opened by a mark do not begin in it (`OpensWith.rewrites_plain`). Spans that take a
line do not begin in it either, as long as the text behind it does not complete the mark of a line
(`TakesLine.rewrites_plain`).
-/

namespace Wikidown

/-- The characters that open or close a span or stand for one, and the carriage return. -/
def marks : Text :=
  "*_#+-\x7b\x7d?^~![]|\r".toList

/-- Whether a line begins as a quoted line or as a header. -/
def opensLine : Text → Bool
  | 'b' :: 'q' :: '.' :: _ => true
  | 'h' :: d :: '.' :: _ => '0' ≤ d && d ≤ '6'
  | _ => false

/-- A text without marks in which no line begins as a quoted line or as a header. -/
structure Plain (s : Text) : Prop where
  unmarked : ∀ x ∈ s, x ∉ marks
  unopened : ∀ l ∈ s.splitOn '\n', opensLine l = false

lemma Plain.iff_any {s : Text} :
    Plain s ↔ s.any (marks.contains ·) = false ∧ (s.splitOn '\n').any opensLine = false := by
  constructor
  · rintro ⟨hs, hl⟩
    exact ⟨by simpa using hs, by simpa using hl⟩
  · rintro ⟨hs, hl⟩
    exact ⟨by simpa using hs, by simpa using hl⟩

instance (s : Text) : Decidable (Plain s) :=
  decidable_of_iff' _ Plain.iff_any

example : Plain "see bq. h7. (x)\nbqq".toList := by decide

/-- Whether the mark of a line begins with the character. -/
def beginsMark (x : Char) : Bool :=
  x == 'b' || x == 'h' || Markup.isListMark x

/-- Whether the mark of a quoted line or of a header goes on with the character. -/
def continuesMark (x : Char) : Bool :=
  x == 'q' || x == '.' || ('0' ≤ x && x ≤ '6')

/-- A text with which no mark of a line goes on. -/
def EndsMark (r : Text) : Prop :=
  ∀ x, r.head? = some x → continuesMark x = false

/-- Whether a line begins as a list item. -/
def opensItem (s : Text) : Bool :=
  !(s.takeWhile Markup.isListMark).isEmpty && (s.dropWhile Markup.isListMark).head? == some ' '

section Opening

variable {s r : Text} {x : Char}

lemma opensLine_cons (hb : x ≠ 'b') (hh : x ≠ 'h') : opensLine (x :: s) = false := by
  rw [opensLine]
  · rintro _ e
    cases e
    exact hb rfl
  · rintro _ _ e
    cases e
    exact hh rfl

lemma opensItem_cons (h : Markup.isListMark x = false) : opensItem (x :: s) = false := by
  simp [opensItem, h]

/-- A run of list marks opens no item if something else than a blank comes behind it. -/
lemma opensItem_append {u : Text} (hu : ∀ y ∈ u, Markup.isListMark y = true)
    (hx : Markup.isListMark x = false) (hb : x ≠ ' ') : opensItem (u ++ x :: s) = false := by
  have hstop : (x :: s).takeWhile Markup.isListMark = [] := by simp [hx]
  rw [opensItem, Text.dropWhile_append_of_stop hu hstop]
  simp [hb]

/-- The mark of a line lies within the line. -/
lemma opensLine_append (hs : s ≠ []) (hr : EndsMark r) (h : opensLine s = false) :
    opensLine (s ++ r) = false := by
  rw [Bool.eq_false_iff] at h ⊢
  intro e
  apply h
  -- the marks have three characters, so at most two of them can lie in the text
  rcases s with _ | ⟨x, _ | ⟨y, _ | ⟨z, s⟩⟩⟩
  · exact absurd rfl hs
  · rcases r with _ | ⟨y, r⟩
    · exact e
    · have hy := hr y rfl
      simp only [List.cons_append, List.nil_append, opensLine] at e
      split at e
      · next hc => cases hc; simp [continuesMark] at hy
      · next hc => cases hc; simp [continuesMark] at hy e; grind
      · cases e
  · rcases r with _ | ⟨z, r⟩
    · exact e
    · have hz := hr z rfl
      simp only [List.cons_append, List.nil_append, opensLine] at e
      split at e
      · next hc => cases hc; simp [continuesMark] at hz
      · next hc => cases hc; simp [continuesMark] at hz
      · cases e
  · simp only [List.cons_append, opensLine] at e ⊢
    split at e <;> simp_all

end Opening

namespace Plain

variable {s r : Text} {x : Char}

lemma not_mem (h : Plain s) (hx : x ∈ marks) : x ∉ s :=
  fun hs => h.unmarked x hs hx

/-- The lines behind a line feed are lines of the text. -/
lemma of_append_break {u v : Text} (h : Plain (u ++ '\n' :: v)) : Plain v := by
  refine ⟨fun x hx => h.unmarked x (by simp [hx]), fun l hl => h.unopened l ?_⟩
  rw [List.splitOn_append_cons_self]
  exact List.mem_append_right _ hl

/-- Where a line of a plain text begins, no mark of a line begins. -/
lemma opensLine_eq_false (h : Plain s) (hs : s ≠ []) (hr : EndsMark r) :
    opensLine (s ++ r) = false := by
  by_cases hn : '\n' ∈ s
  · obtain ⟨l, t, rfl, hl⟩ := List.eq_append_cons_of_mem hn
    have hline : opensLine l = false :=
      h.unopened l (by simp [List.splitOn_append_cons_self_of_not_mem hl])
    cases l with
    | nil => exact opensLine_cons (by decide) (by decide)
    | cons x l =>
      have hbreak : EndsMark ('\n' :: t ++ r) := by
        rintro y hy
        cases hy
        decide
      rw [List.append_assoc]
      exact opensLine_append (List.cons_ne_nil x l) hbreak hline
  · exact opensLine_append hs hr (h.unopened s (by simp [List.splitOn_eq_singleton hn]))

lemma isListMark_eq_false (h : Plain s) (hx : x ∈ s) : Markup.isListMark x = false := by
  rw [Bool.eq_false_iff]
  intro hm
  refine h.unmarked x hx ?_
  simp only [Markup.isListMark, Bool.or_eq_true, beq_iff_eq] at hm
  rcases hm with ((rfl | rfl) | rfl) | rfl <;> decide

end Plain

namespace Pattern

variable {α : Type} {pat : Pattern α} {f : α → Text} {b : Option Char} {s r : Text} {x : Char}

/-- A plain segment stays as it is if spans begin with marks. -/
lemma OpensWith.rewrites_plain {cs : Text} (ho : pat.OpensWith cs) (hcs : ∀ x ∈ cs, x ∈ marks)
    (hs : Plain s) : pat.Rewrites f b s s r :=
  ho.rewrites_self fun x hx hc => hs.unmarked x hx (hcs x hc)

/-! ## Spans that take a line -/

/-- Spans of the pattern begin where a line begins, and with the mark of a line. -/
structure TakesLine (pat : Pattern α) : Prop where
  fresh : ∀ b s m, pat.read b s = some m → b = none ∨ b = some '\n'
  opens : ∀ b s m, pat.read b s = some m → opensLine s = true ∨ opensItem s = true

lemma TakesLine.read_eq_none (h : pat.TakesLine) (hl : opensLine s = false)
    (hi : opensItem s = false) (b : Option Char) : pat.read b s = none := by
  cases hr : pat.read b s with
  | none => rfl
  | some m =>
    have := h.opens b s m hr
    simp [hl, hi] at this

/-- Where no line begins, no span does. -/
lemma TakesLine.read_inLine (h : pat.TakesLine) (hx : x ≠ '\n') : pat.read (some x) s = none := by
  cases hr : pat.read (some x) s with
  | none => rfl
  | some m =>
    have := h.fresh _ s m hr
    simp [hx] at this

/-- A segment of one line stays as it is if no span begins with the line. -/
lemma TakesLine.rewrites_of_read (h : pat.TakesLine) (hn : '\n' ∉ s)
    (hread : pat.read b (s ++ r) = none) : pat.Rewrites f b s s r := by
  apply rewrites_self
  intro u v hu hv
  cases hlast : u.getLast? with
  | none =>
    cases List.getLast?_eq_none_iff.1 hlast
    cases hu
    exact hread
  | some x =>
    have hx : x ∈ s := hu ▸ List.mem_append_left v (List.mem_of_getLast? hlast)
    exact h.read_inLine (ne_of_mem_of_not_mem hx hn)

/-- A segment of one line stays as it is if the line does not begin with a mark. -/
lemma TakesLine.rewrites_line (h : pat.TakesLine) (hn : '\n' ∉ s) (hl : opensLine (s ++ r) = false)
    (hi : opensItem (s ++ r) = false) : pat.Rewrites f b s s r :=
  h.rewrites_of_read hn (h.read_eq_none hl hi b)

/-- A segment stays as it is if none of its characters begins the mark of a line. -/
lemma TakesLine.rewrites_of_any (h : pat.TakesLine)
    (hs : s.any beginsMark = false) : pat.Rewrites f b s s r := by
  apply rewrites_self
  intro u v hu hv
  obtain ⟨x, v, rfl⟩ := List.exists_cons_of_ne_nil hv
  obtain ⟨⟨hb, hh⟩, hm⟩ : (x ≠ 'b' ∧ x ≠ 'h') ∧ Markup.isListMark x = false := by
    simpa [beginsMark] using List.any_eq_false.1 hs x (by simp [hu])
  exact h.read_eq_none (opensLine_cons hb hh) (opensItem_cons hm) _

/-- A plain segment stays as it is if spans take a line. -/
lemma TakesLine.rewrites_plain (h : pat.TakesLine) (hs : Plain s) (hr : EndsMark r) :
    pat.Rewrites f b s s r := by
  apply rewrites_self
  intro u v hu hv
  cases hread : pat.read (u.getLast?.or b) (v ++ r) with
  | none => rfl
  | some m =>
    -- a span could only begin with a line, and from there on the text is plain too
    have hplain : Plain v := by
      cases hlast : u.getLast? with
      | none =>
        cases List.getLast?_eq_none_iff.1 hlast
        cases hu
        exact hs
      | some x =>
        have hx := h.fresh _ _ m hread
        obtain rfl : x = '\n' := by simpa [hlast] using hx
        obtain ⟨u, rfl⟩ := List.getLast?_eq_some_iff.1 hlast
        rw [List.append_assoc] at hu
        exact .of_append_break (hu ▸ hs)
    obtain ⟨x, w, rfl⟩ := List.exists_cons_of_ne_nil hv
    have hm : Markup.isListMark x = false := hplain.isListMark_eq_false List.mem_cons_self
    rw [h.read_eq_none (hplain.opensLine_eq_false hv hr) (opensItem_cons hm)] at hread
    cases hread

end Pattern

namespace Markup

open Pattern

lemma takesLine_quotedLine : quotedLine.TakesLine where
  fresh _ _ _ h := (read_atLineStart_iff.1 h).2
  opens b s m h := by
    rw [← source_append_rest h, quotedLine_source h]
    exact .inl rfl

lemma takesLine_headerLine : headerLine.TakesLine where
  fresh _ _ _ h := (read_atLineStart_iff.1 h).2
  opens b s m h := by
    obtain ⟨d, hd, hs⟩ := headerLine_source h
    rw [← source_append_rest h, hs]
    rw [headerLevel?] at hd
    split at hd
    · next hlevel => exact .inl (by simpa [opensLine] using hlevel)
    · cases hd

lemma opensItem_of_read {b : Option Char} {s : Text} {m : Span (Text × Text)}
    (h : listItem.read b s = some m) : opensItem s = true := by
  obtain ⟨hne, hrun, hs⟩ := listItem_source h
  have hstop : (' ' :: m.captured.2 ++ m.rest).takeWhile isListMark = [] := rfl
  rw [← source_append_rest h, hs, List.append_assoc, opensItem,
    Text.takeWhile_append_of_stop hrun hstop, Text.dropWhile_append_of_stop hrun hstop]
  simp [hne]

lemma takesLine_listItem : listItem.TakesLine where
  fresh _ _ _ h := (read_atLineStart_iff.1 h).2
  opens _ _ _ h := .inr (opensItem_of_read h)

end Markup

end Wikidown
