import Wikidown.Proofs.Breaks
import Wikidown.Proofs.LineDocument

/-!
# Conversion of line documents

Where no character opens a span over several lines and no carriage return stands in front of a break
(`Linewise`), each rule treats the lines of a text one by one and keeps that so
(`Linewise.apply_append_break`). A run of rules then does the same, so each line is converted as if
it stood alone, and what becomes of single lines (`Line.convert_line`) gives the conversion of every
document made of such lines (`convert_lines`).
-/

namespace Wikidown

open Markup

/-- A text without braces, question marks and carriage returns. -/
def Linewise (s : Text) : Prop :=
  ∀ x ∈ ['\x7b', '?', '\r'], x ∉ s

namespace Linewise

variable {a b s : Text} {ls : List Text}

lemma append_break (ha : Linewise a) (hb : Linewise b) : Linewise (a ++ '\n' :: b) := by
  intro x hx
  have hn : x ≠ '\n' := ne_of_mem_of_not_mem hx (by decide)
  simp [ha x hx, hb x hx, hn]

lemma unlines (h : ∀ l ∈ ls, Linewise l) : Linewise (Text.unlines ls) := by
  induction ls with
  | nil => exact fun x _ => List.not_mem_nil
  | cons l ls ih =>
    obtain ⟨hl, hls⟩ := List.forall_mem_cons.1 h
    cases ls with
    | nil => rwa [Text.unlines_singleton]
    | cons k ls =>
      rw [Text.unlines_cons (List.cons_ne_nil k ls)]
      exact hl.append_break (ih hls)

/-- The rules that open at a brace or a question mark. -/
def opensWide (r : Rule) : Bool :=
  !r.takesLine && r.openers.all ['\x7b', '?'].contains

lemma apply_eq_self (o : Options) {r : Rule} (hr : opensWide r = true) (h : Linewise s) :
    r.apply o s = s := by
  obtain ⟨hline, hopen⟩ : r.takesLine = false ∧ ∀ x ∈ r.openers, x = '\x7b' ∨ x = '?' := by
    simpa [opensWide] using hr
  refine Rule.apply_eq_self o hline fun x hx => ?_
  rcases hopen x hx with rfl | rfl
  · exact h _ (by decide)
  · exact h _ (by decide)

/-- Each rule treats two such texts around a break apart, and leaves both as they are in this. -/
lemma apply_append_break (o : Options) (r : Rule) (ha : Linewise a) (hb : Linewise b) :
    r.apply o (a ++ '\n' :: b) = r.apply o a ++ '\n' :: r.apply o b ∧
      Linewise (r.apply o a) ∧ Linewise (r.apply o b) := by
  by_cases hwide : opensWide r = true
  · rw [apply_eq_self o hwide (ha.append_break hb), apply_eq_self o hwide ha,
      apply_eq_self o hwide hb]
    exact ⟨rfl, ha, hb⟩
  by_cases htable : r = .tableHeader
  · subst htable
    have hreturn : a.getLast? ≠ some '\r' :=
      fun e => ha '\r' (by decide) (List.mem_of_getLast? e)
    -- the breaks that the table rule writes are line feeds
    have keeps : ∀ {s}, Linewise s → Linewise (writeTableHeaders s) := by
      intro s hs x hx
      by_cases hr : x = '\r'
      · subst hr
        exact (SameBreaks.refl (hs _ (by decide))).writeTableHeaders_eq.2
      · have hx' : x ∉ Rule.tableHeader.markup.toList := by
          simp only [List.mem_cons, List.not_mem_nil, or_false, hr] at hx
          rcases hx with rfl | rfl <;> decide
        exact fun hm => hs x hx ((Rule.mem_apply_iff (r := .tableHeader) o hx' s).1 hm)
    exact ⟨writeTableHeaders_append_break hreturn b, keeps ha, keeps hb⟩
  · obtain ⟨hlocal, hmarkup⟩ : r.isLocal = true ∧
        ['\x7b', '?', '\r'].all (!r.markup.toList.contains ·) = true := by
      cases r <;> first | exact ⟨rfl, by decide⟩ | exact absurd rfl hwide | exact absurd rfl htable
    have keeps : ∀ {s}, Linewise s → Linewise (r.apply o s) := fun hs x hx hm =>
      hs x hx ((Rule.mem_apply_iff o (by simpa using List.all_eq_true.1 hmarkup x hx) _).1 hm)
    exact ⟨Rule.apply_append_break o hlocal a b, keeps ha, keeps hb⟩

lemma convert_append_break (o : Options) (ha : Linewise a) (hb : Linewise b) :
    convert o (a ++ '\n' :: b) = convert o a ++ '\n' :: convert o b :=
  have key : Rule.applyAll o Rule.all (a ++ '\n' :: b) =
      Rule.applyAll o Rule.all a ++ '\n' :: Rule.applyAll o Rule.all b ∧ _ :=
    applyAll_append_break (I := fun a b => Linewise a ∧ Linewise b)
      (fun r _ _ _ h => apply_append_break o r h.1 h.2) ⟨ha, hb⟩
  key.1

end Linewise

namespace Line

variable {l : Line} {o : Options}

lemma written_ne_nil (l : Line) : l.written ≠ [] := by
  cases l <;> simp [written]

lemma Valid.marked (h : l.Valid) : Marked ['#', '*', '+', '-', '|'] l.source := by
  cases l with
  | plain c => exact h.plain.marked
  | quoted c => exact .append (s := ['b', 'q', '.']) (.of_all (by decide)) h.plain.marked
  | header n c => exact marked_header h.1 h.2.plain
  | item run c =>
    obtain ⟨hrun, hc⟩ := h
    refine .append (fun x hx _ => ?_) (.append (s := [' ']) (.of_all (by decide)) hc.plain.marked)
    have hx := isListMark_of_run hrun x hx
    simp only [isListMark, Bool.or_eq_true, beq_iff_eq] at hx
    simp only [List.mem_cons]
    tauto
  | headerRow closed cells => exact (marked_row h.2 (.of_all (by decide))).mono (by decide)
  | bodyRow cells => exact (marked_row h (.of_all (by decide))).mono (by decide)

lemma Valid.linewise (h : l.Valid) : Linewise l.source := by
  have hmarks : ['\x7b', '?', '\r'] ⊆ marks := by decide
  have hother : ['\x7b', '?', '\r'].all (· ∉ ['#', '*', '+', '-', '|']) = true := by decide
  intro x hx hm
  simpa [h.marked x hm (hmarks hx)] using List.all_eq_true.1 hother x hx

/-- A single line is written as its kind says. -/
lemma convert_line (h : l.Valid) : convert o l.source = Text.unlines l.written := by
  cases l with
  | plain c => exact (convert_plain h).trans (Text.unlines_singleton _).symm
  | quoted c => exact (convert_quoted h).trans (Text.unlines_singleton _).symm
  | header n c => exact (convert_header h.1 h.2).trans (Text.unlines_singleton _).symm
  | item run c =>
    rw [written, Text.unlines_singleton, ← renderItem_eq h.1.1]
    exact convert_item h.1 h.2
  | headerRow closed cells => exact convert_headerRow h.2 h.1
  | bodyRow cells => exact (convert_bodyRow h).trans (Text.unlines_singleton _).symm

end Line

/-- A document of lines of these kinds is converted line by line, each line as its kind says. What a
rule writes for one line is markup neither for a later rule nor for another line. -/
theorem convert_lines (o : Options) (ls : List Line) (h : ∀ l ∈ ls, l.Valid) :
    convert o (Text.unlines (ls.map Line.source)) = Text.unlines (ls.flatMap Line.written) := by
  induction ls with
  | nil => exact convert_plain ⟨by decide, by simp [Text.unlines]⟩
  | cons l ls ih =>
    obtain ⟨hl, hls⟩ := List.forall_mem_cons.1 h
    cases ls with
    | nil => simpa using Line.convert_line hl
    | cons k ls =>
      have hrest : Linewise (Text.unlines ((k :: ls).map Line.source)) :=
        .unlines (List.forall_mem_map.2 fun l hl => (hls l hl).linewise)
      have hwritten : (k :: ls).flatMap Line.written ≠ [] := by simp [Line.written_ne_nil]
      calc convert o (Text.unlines ((l :: k :: ls).map Line.source))
          = convert o (l.source ++ '\n' :: Text.unlines ((k :: ls).map Line.source)) := by
            rw [List.map_cons, Text.unlines_cons (by simp)]
        _ = convert o l.source ++ '\n' ::
              convert o (Text.unlines ((k :: ls).map Line.source)) :=
            hl.linewise.convert_append_break o hrest
        _ = Text.unlines l.written ++ '\n' :: Text.unlines ((k :: ls).flatMap Line.written) := by
            rw [Line.convert_line hl, ih hls]
        _ = Text.unlines ((l :: k :: ls).flatMap Line.written) := by
            rw [← Text.unlines_append l.written_ne_nil hwritten, ← List.flatMap_cons]

/-- Lines of all kinds: a run that ends in a number mark numbers its item, and a header row that is
not closed has as many columns as cells. -/
theorem convert_lines_table :
    convert ⟨true⟩ "bq.a\nh2.b\n** c\n+-# d\n||e||f\n|g|h|\n".toList =
      "> a\n###b\n      - c\n          1. d\n|e|f\n|---|---|\n|g|h|\n".toList :=
  convert_lines ⟨true⟩ [.quoted ['a'], .header 2 ['b'], .item ['*', '*'] ['c'],
    .item ['+', '-', '#'] ['d'], .headerRow false [['e'], ['f']], .bodyRow [['g'], ['h']],
    .plain []] (by decide)

end Wikidown
