import Wikidown.Proofs.Plain

/-!
# Inline documents

A document of plain texts and inline forms, one after the other. Each form is written by one rule
and is text like any other to the rules before and after it: `stage` is the document in which some
of the forms are written and the others still stand in their source, and `Document.replace_stage`
takes a pattern through such a document segment by segment.
-/

namespace Wikidown.Inline

/-- The inline forms with one content between two markers. -/
inductive Form
  | star
  | underscore
  | monospace
  | citation
  | insertion
  | superscript
  | subscript
  | deletion
  | image
  | label
deriving DecidableEq, Repr

namespace Form

/-- All forms. -/
def all : List Form :=
  [star, underscore, monospace, citation, insertion, superscript, subscript, deletion, image, label]

lemma mem_all (k : Form) : k ∈ all := by
  cases k <;> decide

/-- The rule that writes a form. -/
def rule : Form → Rule
  | star | underscore => .strong
  | monospace => .monospace
  | citation => .citation
  | insertion => .insert
  | superscript => .superscript
  | subscript => .subscript
  | deletion => .delete
  | image => .image
  | label => .link

/-- The markers around the content in the source. -/
def markers : Form → String × String
  | star => ("*", "*")
  | underscore => ("_", "_")
  | monospace => ("\x7b\x7b", "\x7d\x7d")
  | citation => ("??", "??")
  | insertion => ("+", "+")
  | superscript => ("^", "^")
  | subscript => ("~", "~")
  | deletion => ("-", "-")
  | image => ("!", "!")
  | label => ("[", "]")

/-- The markers around the content in the written document, where `next` is the character behind
the form: a label in front of a parenthesis stays in its brackets. -/
def newMarkers (o : Options) (next : Option Char) : Form → String × String
  | star | underscore => ("**", "**")
  | monospace => ("`", "`")
  | citation => ("<cite>", "</cite>")
  | insertion => ("<ins>", "</ins>")
  | superscript => ("<sup>", "</sup>")
  | subscript => ("<sub>", "</sub>")
  | deletion => if o.strikethrough then ("~~", "~~") else ("-", "-")
  | image => ("![](", ")")
  | label => if next = some '(' then ("[", "]") else ("<", ">")

/-- What a form asks of its content and of the text before and after it. -/
def Admits (before content after : Text) : Form → Prop
  | star | underscore => '\n' ∉ content ∧ Markup.startsInk content = true
  | monospace | citation => True
  | insertion => '\n' ∉ content ∧ content.head? ≠ some ' '
  | superscript | subscript | label => '\n' ∉ content
  | deletion => '\n' ∉ content ∧ Markup.startsInk content = true ∧ Markup.endsInk content = true ∧
      before.getLast?.all isBlank = true ∧ after.head?.all isBlank = true
  | image => ∀ x ∈ content, isBlank x = false

end Form

/-- A segment of a document. -/
inductive Segment
  | plain (s : Text)
  | form (k : Form) (content : Text)
  | link (label target : Text)
deriving DecidableEq, Repr

namespace Segment

/-- The segment in the source. -/
def source : Segment → Text
  | plain s => s
  | form k c => k.markers.1.toList ++ c ++ k.markers.2.toList
  | link l u => "[".toList ++ l ++ "|".toList ++ u ++ "]".toList

/-- The segment in the written document, in front of the character `next`. -/
def written (o : Options) (next : Option Char) : Segment → Text
  | plain s => s
  | form k c => (k.newMarkers o next).1.toList ++ c ++ (k.newMarkers o next).2.toList
  | link l u => "[".toList ++ l ++ "](".toList ++ u ++ ")".toList

end Segment

/-- The source of a document. -/
def source (gs : List Segment) : Text :=
  gs.flatMap Segment.source

/-- The written document. -/
def written (o : Options) : List Segment → Text
  | [] => []
  | g :: gs => g.written o (source gs).head? ++ written o gs

/-- A segment that can stand between the text `before` and the segments `gs`. -/
inductive Fits (before : Text) : Segment → List Segment → Prop
  | plain {s gs} :
    Plain s →
    (∀ t, gs.head? ≠ some (.plain t)) →
    Fits before (.plain s) gs
  | form {k c gs} :
    Plain c →
    c ≠ [] →
    k.Admits before c (source gs) →
    Fits before (.form k c) gs
  | link {l u gs} :
    Plain l →
    l ≠ [] →
    '\n' ∉ l →
    Plain u →
    u ≠ [] →
    '\n' ∉ u →
    Fits before (.link l u) gs

/-- The segments of a document from behind the text `before` on. -/
inductive Document : Text → List Segment → Prop
  | nil {before} :
    Document before []
  | cons {before g gs} :
    Fits before g gs →
    Document (before ++ g.source) gs →
    Document before (g :: gs)

/-! ## Stages -/

/-- The markers of a form that is either written already or still stands in its source. -/
def Form.shape (o : Options) (done : Bool) (next : Option Char) (k : Form) : String × String :=
  if done then k.newMarkers o next else k.markers

/-- A segment that is either written already or still stands in its source. -/
def Segment.text (o : Options) (done : Bool) (next : Option Char) (g : Segment) : Text :=
  if done then g.written o next else g.source

/-- The document in which the segments of `done` are written and the others are not. -/
def stage (o : Options) (done : Segment → Bool) : List Segment → Text
  | [] => []
  | g :: gs => g.text o (done g) (source gs).head? ++ stage o done gs

/-- The characters that begin a form, in the source or in the written document. -/
def openers : Text :=
  "*_\x7b?+^~-![`<".toList

/-- The characters that begin the closing marker of a form. -/
def closers : Text :=
  "*_\x7d?+^~-!]`<>)".toList

section Markers

variable {c s : Text} {x : Char} (o : Options) (d : Bool) (next : Option Char) (k : Form)

@[simp] lemma text_plain : (Segment.plain s).text o d next = s := by
  cases d <;> rfl

lemma text_form :
    (Segment.form k c).text o d next =
      (k.shape o d next).1.toList ++ c ++ (k.shape o d next).2.toList := by
  cases d <;> rfl

/-- The pairs of markers that a form can have. -/
def Form.shapes (done : Bool) (k : Form) : List (String × String) :=
  -- no form depends on the options and on what follows, so two choices show all its markers
  if done then [k.newMarkers ⟨false⟩ none, k.newMarkers ⟨true⟩ (some '(')] else [k.markers]

lemma shape_mem_shapes : k.shape o d next ∈ k.shapes d := by
  cases d with
  | false => exact List.mem_singleton_self _
  | true =>
    cases k with
    | deletion => cases h : o.strikethrough <;> simp [Form.shape, Form.shapes, Form.newMarkers, h]
    | label =>
      by_cases h : next = some '(' <;> simp [Form.shape, Form.shapes, Form.newMarkers, h]
    | _ => exact List.mem_cons_self

/-- What can be checked for all pairs of markers holds at each stage. -/
lemma forall_shape {P : Form → Bool → String × String → Prop}
    (h : ∀ k ∈ Form.all, ∀ d, ∀ p ∈ k.shapes d, P k d p) : P k d (k.shape o d next) :=
  h k k.mem_all d _ (shape_mem_shapes o d next k)

lemma exists_opener : ∃ x m, (k.shape o d next).1.toList = x :: m ∧ x ∈ openers := by
  have h := forall_shape o d next k
    (P := fun _ _ p => p.1.toList.head?.any (openers.contains ·) = true) (by decide)
  obtain ⟨x, m, hm, ho⟩ := Text.exists_cons_of_any_head? h
  exact ⟨x, m, hm, List.contains_iff_mem.1 ho⟩

lemma exists_closer : ∃ x m, (k.shape o d next).2.toList = x :: m ∧ x ∈ closers := by
  have h := forall_shape o d next k
    (P := fun _ _ p => p.2.toList.head?.any (closers.contains ·) = true) (by decide)
  obtain ⟨x, m, hm, hc⟩ := Text.exists_cons_of_any_head? h
  exact ⟨x, m, hm, List.contains_iff_mem.1 hc⟩

/-- No form ends with a blank in its source. -/
lemma exists_getLast?_markers :
    ∃ x, k.markers.2.toList.getLast? = some x ∧ isBlank x = false := by
  have h : ∀ k ∈ Form.all, k.markers.2.toList.getLast?.any (!isBlank ·) = true := by decide
  obtain ⟨x, hx, hb⟩ := (Option.any_eq_true ..).1 (h k k.mem_all)
  exact ⟨x, hx, by simpa using hb⟩

lemma isBlank_of_mem_openers (h : x ∈ openers) : isBlank x = false := by
  have key : openers.any isBlank = false := by decide
  simpa using List.any_eq_false.1 key x h

lemma ne_paren_of_mem_openers (h : x ∈ openers) : x ≠ '(' :=
  ne_of_mem_of_not_mem h (by decide)

/-- No mark of a line goes on with a marker. -/
lemma endsMark_cons (h : x ∈ openers ++ closers) : EndsMark (x :: s) := by
  have key : (openers ++ closers).any continuesMark = false := by decide
  rintro y hy
  cases hy
  simpa using List.any_eq_false.1 key x h

end Markers

section Stages

variable {o : Options} {done : Segment → Bool} {d : Bool} {g : Segment} {gs : List Segment}
  {before : Text} {b next : Option Char}

/-- A form begins with an opener, whether it is written or not. -/
lemma exists_opener_of_ne_plain (o : Options) (d : Bool) (next : Option Char)
    (h : ∀ s, g ≠ .plain s) :
    ∃ x s, g.text o d next = x :: s ∧ x ∈ openers := by
  cases g with
  | plain s => exact absurd rfl (h s)
  | form k c =>
    obtain ⟨x, m, hm, hx⟩ := exists_opener o d next k
    exact ⟨x, m ++ c ++ (k.shape o d next).2.toList, by rw [text_form, hm]; simp, hx⟩
  | link l u =>
    cases d with
    | false => exact ⟨'[', l ++ "|".toList ++ u ++ "]".toList, rfl, by decide⟩
    | true => exact ⟨'[', l ++ "](".toList ++ u ++ ")".toList, rfl, by decide⟩

/-- What stands at the front of a document is the same at each stage, or an opener. -/
lemma head?_stage (o : Options) (done : Segment → Bool) (gs : List Segment) :
    (stage o done gs).head? = (source gs).head? ∨
      (∃ x ∈ openers, (stage o done gs).head? = some x) ∧
        ∃ x ∈ openers, (source gs).head? = some x := by
  induction gs with
  | nil => exact .inl rfl
  | cons g gs ih =>
    cases hg : g with
    | plain s =>
      cases s with
      | nil => simpa [stage, source, Segment.source] using ih
      | cons c s => exact .inl (by simp [stage, source, Segment.source])
    | _ =>
      rw [← hg]
      have hne : ∀ s, g ≠ .plain s := by simp [hg]
      obtain ⟨x, s, hs, hx⟩ := exists_opener_of_ne_plain o (done g) (source gs).head? hne
      obtain ⟨y, t, ht, hy⟩ := exists_opener_of_ne_plain o false none hne
      have ht : g.source = y :: t := ht
      exact .inr ⟨⟨x, hx, by simp [stage, hs]⟩, ⟨y, hy, by simp [source, ht]⟩⟩

lemma all_isBlank_head?_stage (h : (source gs).head?.all isBlank = true) :
    (stage o done gs).head?.all isBlank = true := by
  rcases head?_stage o done gs with he | ⟨-, x, hx, hs⟩
  · rwa [he]
  · rw [hs] at h
    exact absurd h (by simp [isBlank_of_mem_openers hx])

lemma head?_stage_eq_paren :
    (stage o done gs).head? = some '(' ↔ (source gs).head? = some '(' := by
  rcases head?_stage o done gs with he | ⟨⟨x, hx, hs⟩, y, hy, ht⟩
  · rw [he]
  · simp [hs, ht, ne_paren_of_mem_openers hx, ne_paren_of_mem_openers hy]

/-- No mark of a line goes on where a form begins. -/
lemma endsMark_stage (h : ∀ s, gs.head? ≠ some (.plain s)) : EndsMark (stage o done gs) := by
  cases gs with
  | nil => exact fun x hx => by cases hx
  | cons g gs =>
    have hne : ∀ s, g ≠ .plain s := fun s e => h s (by rw [e]; rfl)
    obtain ⟨x, s, hs, hx⟩ := exists_opener_of_ne_plain o (done g) (source gs).head? hne
    rw [stage, hs]
    exact endsMark_cons (List.mem_append_left _ hx)

/-- The character `b` is blank or missing if the text `before` ends with a blank or is empty. -/
def Behind (before : Text) (b : Option Char) : Prop :=
  before.getLast?.all isBlank = true → b.all isBlank = true

lemma Behind.append_source (h : Behind before b) :
    Behind (before ++ g.source) ((g.text o d next).getLast?.or b) := by
  intro hb
  rw [List.getLast?_append] at hb
  cases g with
  | plain s =>
    rw [text_plain]
    rw [Segment.source] at hb
    cases hs : s.getLast? with
    | none => simpa [hs] using h (by simpa [hs] using hb)
    | some x => simpa [hs] using hb
  | form k c =>
    obtain ⟨x, hx, hn⟩ := exists_getLast?_markers k
    simp [Segment.source, List.getLast?_append, hx, hn] at hb
  | link l u =>
    have hn : isBlank ']' = false := rfl
    rw [Segment.source, List.getLast?_append] at hb
    exact absurd hb (by simp [hn])

/-- A pattern takes the rest of a document from one stage to another if it does so with each
segment. -/
lemma Document.rewrite_stage {α : Type} {pat : Pattern α} {f : α → Text}
    {done done' : Segment → Bool}
    (step : ∀ before g gs b, Fits before g gs → Behind before b →
      pat.Rewrites f b (g.text o (done g) (source gs).head?) (g.text o (done' g) (source gs).head?)
        (stage o done gs))
    (h : Document before gs) (hb : Behind before b) :
    pat.rewrite f b (stage o done gs) = stage o done' gs := by
  induction h generalizing b with
  | nil => simp [stage]
  | cons hg _ ih => rw [stage, stage, step _ _ _ b hg hb, ih hb.append_source]

/-- A whole document stands behind nothing. -/
lemma Document.replace_stage {α : Type} {pat : Pattern α} {f : α → Text}
    {done done' : Segment → Bool}
    (step : ∀ before g gs b, Fits before g gs → Behind before b →
      pat.Rewrites f b (g.text o (done g) (source gs).head?) (g.text o (done' g) (source gs).head?)
        (stage o done gs))
    (h : Document [] gs) : pat.replace f (stage o done gs) = stage o done' gs :=
  h.rewrite_stage step fun _ => rfl

end Stages

end Wikidown.Inline
