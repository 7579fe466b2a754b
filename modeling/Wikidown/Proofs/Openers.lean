import Wikidown.Proofs.Locality
import Wikidown.Proofs.Plain

/-!
# Rules that find nothing

A rule does nothing where none of its spans can begin. For a rule whose spans begin with marks it is
enough that the text holds none of these (`Rule.apply_eq_self_of_marked`). For a rule whose spans
take a line it is enough that the text is one line that does not begin with the mark of a line
(`Rule.apply_eq_self_of_line`). A span of two delimiters is not found where only one stands
(`writeDeletions_eq_self`).
-/

namespace Wikidown

namespace Pattern

variable {α : Type} {pat : Pattern α} {f : α → Text} {s t : Text} {x : Char}

/-- A whole text is a segment that stands alone. -/
lemma Rewrites.replace_eq (h : pat.Rewrites f none s t []) : pat.replace f s = t :=
  h.rewrite_eq_of_nil

/-- A text without the characters that spans begin with stays as it is. -/
lemma OpensWith.replace_eq_self {cs : Text} (ho : pat.OpensWith cs) (h : ∀ x ∈ cs, x ∉ s) :
    pat.replace f s = s :=
  (ho.rewrites_self fun x hx hc => h x hc hx).replace_eq

/-- One line stays as it is if it does not begin with the mark of a line. -/
lemma TakesLine.replace_eq_self (h : pat.TakesLine) (hn : '\n' ∉ s) (hl : opensLine s = false)
    (hi : opensItem s = false) : pat.replace f s = s :=
  (h.rewrites_line hn (by simpa using hl) (by simpa using hi)).replace_eq

/-- A text that holds a character once stays as it is if every span holds it twice. -/
lemma replace_eq_self_of_count (h : ∀ b t m, pat.read b t = some m → 2 ≤ m.source.count x)
    (hs : s.count x < 2) : pat.replace f s = s := by
  apply Pattern.replace_eq_self
  intro b t ht
  cases hr : pat.read b t with
  | none => rfl
  | some m =>
    have htwo : 2 ≤ m.source.count x := h b t m hr
    have hle : m.source.count x ≤ t.count x := by
      rw [← source_append_rest hr, List.count_append]
      exact Nat.le_add_right _ _
    have hts : t.count x ≤ s.count x := ht.sublist.count_le x
    omega

end Pattern

open Pattern Markup

variable {o : Options} {r : Rule} {s : Text}

/-- Deletions need two dashes. -/
lemma writeDeletions_eq_self {strikethrough : Bool} (h : s.count '-' < 2) :
    writeDeletions strikethrough s = s := by
  rw [writeDeletions]
  split
  · refine replace_eq_self_of_count (fun b t m hm => ?_) h
    simp [deletedSpan_source hm]
  · refine replace_eq_self_of_count (fun b t m hm => ?_) h
    simp [around_source hm]

/-- Deletions that are not struck through stay as they are. -/
lemma writeDeletions_false (s : Text) : writeDeletions false s = s :=
  replace_eq_self_of_source (fun _ _ _ hm => (around_source hm).symm) s

namespace Rule

/-- Whether the spans of a rule take a line. -/
def takesLine : Rule → Bool
  | quotedLine | list | header => true
  | _ => false

/-- The marks that a rule looks for, where its spans do not take a line. -/
def openers : Rule → Text
  | strong => ['*', '_']
  | monospace | codeBlock | quoteBlock | noFormat | color => ['\x7b']
  | citation => ['?']
  | insert => ['+']
  | superscript => ['^']
  | subscript => ['~']
  | delete => ['-']
  | image => ['!']
  | link => ['[']
  | tableHeader => ['|', '\r']
  | quotedLine | list | header => []

lemma apply_eq_self (o : Options) (hr : r.takesLine = false) (h : ∀ x ∈ r.openers, x ∉ s) :
    r.apply o s = s := by
  cases r with
  | quotedLine | list | header => cases hr
  | strong => exact opensWith_strongSpan.replace_eq_self h
  | citation | insert | superscript | subscript | image =>
    exact opensWith_around.replace_eq_self h
  | delete =>
    simp only [apply, writeDeletions]
    split
    · exact opensWith_deletedSpan.replace_eq_self h
    · exact opensWith_around.replace_eq_self h
  | link =>
    have piped : convertPipedLinks s = s := opensWith_pipedLink.replace_eq_self h
    rw [apply, writeLinks, piped]
    exact opensWith_bareLink.replace_eq_self h
  | tableHeader => exact writeTableHeaders_eq_self (h '|' (by decide)) (h '\r' (by decide))
  | monospace | codeBlock | quoteBlock | noFormat | color =>
    exact apply_eq_self_of_not_mem o (by simp [markup]) (h _ (List.mem_singleton_self _))

/-- A rule for lines does nothing to one line without the mark of a line. -/
lemma apply_eq_self_of_line (o : Options) (hr : r.takesLine = true) (hn : '\n' ∉ s)
    (hl : opensLine s = false) (hi : opensItem s = false) : r.apply o s = s := by
  cases r with
  | quotedLine => exact takesLine_quotedLine.replace_eq_self hn hl hi
  | list => exact takesLine_listItem.replace_eq_self hn hl hi
  | header => exact takesLine_headerLine.replace_eq_self hn hl hi
  | _ => cases hr

end Rule

/-- The marks of a text are among the given ones. -/
def Marked (ms s : Text) : Prop :=
  ∀ x ∈ s, x ∈ marks → x ∈ ms

namespace Marked

variable {ms t : Text}

lemma mono {ms' : Text} (hs : Marked ms s) (h : ms ⊆ ms') : Marked ms' s :=
  fun x hx hm => h (hs x hx hm)

lemma append (hs : Marked ms s) (ht : Marked ms t) : Marked ms (s ++ t) := by
  intro x hx hm
  rcases List.mem_append.1 hx with hx | hx
  · exact hs x hx hm
  · exact ht x hx hm

/-- What can be checked of the characters of a fixed text. -/
lemma of_all (h : s.all (fun x => !marks.contains x || ms.contains x) = true) : Marked ms s := by
  intro x hx hm
  simpa [hm] using List.all_eq_true.1 h x hx

end Marked

lemma Plain.marked {ms : Text} (h : Plain s) : Marked ms s :=
  fun x hx hm => absurd hm (h.unmarked x hx)

namespace Rule

/-- Whether a rule looks for none of the given marks. -/
def overlooks (r : Rule) (ms : Text) : Bool :=
  r.openers.all fun x => !ms.contains x

/-- A rule does nothing to a text that holds other marks than those it looks for. -/
lemma apply_eq_self_of_marked {ms : Text} (o : Options) (hr : r.takesLine = false)
    (hm : r.overlooks ms = true) (h : Marked ms s) : r.apply o s = s := by
  apply apply_eq_self o hr
  intro x hx hs
  have hmark : r.openers.all (marks.contains ·) = true := by cases r <;> decide
  have hxm : x ∈ marks := List.contains_iff_mem.1 (List.all_eq_true.1 hmark x hx)
  have hno : x ∉ ms := by simpa using List.all_eq_true.1 hm x hx
  exact hno (h x hs hxm)

/-- A rule does nothing to one line that does not begin with the mark of a line, if it takes lines
or looks for other marks than those of the line. -/
lemma apply_eq_self_of_marked_line {ms : Text} (o : Options)
    (hr : (r.takesLine || r.overlooks ms) = true) (h : Marked ms s) (hn : '\n' ∉ s)
    (hl : opensLine s = false) (hi : opensItem s = false) : r.apply o s = s := by
  cases htakes : r.takesLine with
  | true => exact apply_eq_self_of_line o htakes hn hl hi
  | false =>
    rw [htakes, Bool.false_or] at hr
    exact apply_eq_self_of_marked o htakes hr h

variable {rs : List Rule}

lemma applyAll_append {rs' : List Rule} :
    applyAll o (rs ++ rs') s = applyAll o rs' (applyAll o rs s) :=
  List.foldl_append

/-- A run of rules that each do nothing does nothing. -/
lemma applyAll_eq_self (h : ∀ r ∈ rs, r.apply o s = s) : applyAll o rs s = s :=
  applyAll_induction (P := (· = s)) (fun r hr _ ht => ht ▸ h r hr) rfl

/-- A run of rules does nothing to a text that holds other marks than those they look for. -/
lemma applyAll_eq_self_of_marked {ms : Text} (rs : List Rule)
    (hrs : rs.all (fun r => !r.takesLine && r.overlooks ms) = true) (h : Marked ms s) :
    applyAll o rs s = s := by
  apply applyAll_eq_self
  intro r hr
  obtain ⟨htakes, hm⟩ : r.takesLine = false ∧ r.overlooks ms = true := by
    simpa using List.all_eq_true.1 hrs r hr
  exact apply_eq_self_of_marked o htakes hm h

/-- A run of rules does nothing to one line that does not begin with the mark of a line and holds
other marks than those the rules look for. -/
lemma applyAll_eq_self_of_line {ms : Text}
    (hrs : rs.all (fun r => r.takesLine || r.overlooks ms) = true) (h : Marked ms s)
    (hn : '\n' ∉ s) (hl : opensLine s = false) (hi : opensItem s = false) :
    applyAll o rs s = s := by
  apply applyAll_eq_self
  intro r hr
  exact apply_eq_self_of_marked_line o (List.all_eq_true.1 hrs r hr) h hn hl hi

end Rule

end Wikidown
