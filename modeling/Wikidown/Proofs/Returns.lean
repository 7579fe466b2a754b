import Wikidown.Proofs.Locality

/-!
# Carriage returns at the end of a line

A rule whose spans lie within one line leaves a carriage return at the end of its text where it is
(`Rule.apply_append_return`), and so it treats the two lines around a break of a carriage return
and a line feed one by one (`Rule.apply_append_crlf`). Most patterns read the same spans with the
carriage return behind the text. Those of quoted lines, list items and headers take it into the
span; there it is the last character that is written.
-/

namespace Wikidown

namespace Pattern

variable {α : Type} {pat : Pattern α} {f : α → Text}

/-- A carriage return at the end of the text stands behind all spans, or it is written at the end of
the last one. -/
def PassesReturn (pat : Pattern α) (f : α → Text) : Prop :=
  ∀ b s,
    pat.read b (s ++ ['\r']) =
        ((pat.read b s).map fun m => ⟨m.source, m.captured, m.rest ++ ['\r']⟩) ∨
      ∃ m m', pat.read b s = some m ∧ pat.read b (s ++ ['\r']) = some m' ∧ m.rest = [] ∧
        m'.rest = [] ∧ f m'.captured = f m.captured ++ ['\r']

lemma IgnoresEnd.passesReturn (h : pat.IgnoresEnd ['\r']) : pat.PassesReturn f :=
  fun b s => .inl (h b s)

lemma PassesReturn.atLineStart (h : pat.PassesReturn f) : pat.atLineStart.PassesReturn f := by
  intro b s
  simp only [Pattern.atLineStart, Pattern.filter]
  cases hb : (b == none || b == some '\n') with
  | false => left; cases pat.read b s <;> cases pat.read b (s ++ ['\r']) <;> rfl
  | true =>
    have hall : ∀ o : Option (Span α), (o.filter fun _ => true) = o := by
      intro o
      cases o <;> rfl
    simpa only [hall] using h b s

lemma PassesReturn.replace_append (h : pat.PassesReturn f) (s : Text) :
    pat.replace f (s ++ ['\r']) = pat.replace f s ++ ['\r'] := by
  rw [replace_eq_rewrite, replace_eq_rewrite]
  generalize none = b
  induction b, s using readInduction pat with
  | nil b =>
    rcases h b [] with hr | ⟨m, -, hm, -⟩
    · rw [read_nil] at hr
      rw [List.nil_append, rewrite_plain hr]
      simp
    · simp [read_nil] at hm
  | plain b c t hr ih =>
    rcases h b (c :: t) with hr' | ⟨m, -, hm, -⟩
    · have hr' : pat.read b (c :: (t ++ ['\r'])) = none := by rwa [hr] at hr'
      rw [List.cons_append, rewrite_plain hr', rewrite_plain hr, ih]
      rfl
    · rw [hr] at hm
      cases hm
  | span b s m hr ih =>
    rcases h b s with hr' | ⟨m₁, m', hm, hm', hrest, hrest', hf⟩
    · rw [hr] at hr'
      rw [rewrite_span hr', rewrite_span hr, ih, List.append_assoc]
    · -- The span takes the return along, and nothing is left to read of either text.
      rw [hr] at hm
      cases hm
      rw [rewrite_span hm', rewrite_span hr, hrest, hrest', hf]
      simp

end Pattern

namespace Markup

open Pattern

/-- The rest of a line with a carriage return behind the text: the return belongs to it exactly if
the text is one line. -/
lemma inLine_append_return (u : Text) :
    u.dropWhile inLine = [] ∧ (u ++ ['\r']).takeWhile inLine = u.takeWhile inLine ++ ['\r'] ∧
        (u ++ ['\r']).dropWhile inLine = [] ∨
      (u ++ ['\r']).takeWhile inLine = u.takeWhile inLine ∧
        (u ++ ['\r']).dropWhile inLine = u.dropWhile inLine ++ ['\r'] := by
  induction u with
  | nil => exact .inl ⟨rfl, rfl, rfl⟩
  | cons c u ih =>
    cases hc : inLine c with
    | true => simpa [hc] using ih
    | false => simp [hc]

lemma passesReturn_quotedLine : quotedLine.PassesReturn fun content => quoteMark ++ content := by
  apply PassesReturn.atLineStart
  intro b s
  have hm : '\r' ∉ 'b' :: "q.".toList := by decide
  simp only [between, Text.after?_append_cons hm]
  cases Text.after? ('b' :: "q.".toList) s with
  | none => exact .inl rfl
  | some u =>
    rcases inLine_append_return u with ⟨hd, ht', hd'⟩ | ⟨ht', hd'⟩
    · right
      simp [Text.after?, hd, ht', hd']
    · left
      simp [Text.after?, ht', hd']

lemma passesReturn_listItem :
    listItem.PassesReturn fun (run, content) => renderItem run content := by
  apply PassesReturn.atLineStart
  intro b s
  have hl : isListMark '\r' = false := rfl
  have hc : '\r' ∉ " ".toList := by decide
  simp only [Text.takeWhile_append_cons hl, Text.dropWhile_append_cons hl,
    Text.after?_append_cons hc]
  split
  · exact .inl rfl
  · cases Text.after? " ".toList (s.dropWhile isListMark) with
    | none => exact .inl rfl
    | some u =>
      rcases inLine_append_return u with ⟨hd, ht', hd'⟩ | ⟨ht', hd'⟩
      · right
        simp [hd, ht', hd', renderItem]
      · left
        simp [ht', hd']

lemma passesReturn_headerLine :
    headerLine.PassesReturn fun (n, content) => List.replicate (n + 1) '#' ++ content := by
  apply PassesReturn.atLineStart
  intro b s
  rcases s with _ | ⟨c, _ | ⟨d, _ | ⟨e, u⟩⟩⟩
  · exact .inl rfl
  · left
    simp only [List.cons_append, List.nil_append, Option.map_none]
  · left
    simp only [List.cons_append, List.nil_append]
    split
    · next h => cases h
    · rfl
  · simp only [List.cons_append]
    by_cases h : c = 'h' ∧ e = '.'
    · obtain ⟨rfl, rfl⟩ := h
      cases hn : headerLevel? d with
      | none => exact .inl (by simp [hn])
      | some n =>
        rcases inLine_append_return u with ⟨hd, ht', hd'⟩ | ⟨ht', hd'⟩
        · right
          simp [hn, hd, ht', hd']
        · left
          simp [hn, ht', hd']
    · left
      split
      · next h' => cases h'; exact absurd ⟨rfl, rfl⟩ h
      · split
        · next h' => cases h'; exact absurd ⟨rfl, rfl⟩ h
        · rfl

end Markup

open Pattern Markup

/-- A rule whose spans lie within one line leaves a carriage return at the end where it is. -/
lemma Rule.apply_append_return {r : Rule} (o : Options) (h : r.isLocal = true) (s : Text) :
    r.apply o (s ++ ['\r']) = r.apply o s ++ ['\r'] := by
  have he : EndsLine '\r' [] := .inr ⟨rfl, rfl⟩
  cases r with
  | quotedLine => exact passesReturn_quotedLine.replace_append s
  | list => exact passesReturn_listItem.replace_append s
  | header => exact passesReturn_headerLine.replace_append s
  | strong => exact (ignoresEnd_strongSpan he).passesReturn.replace_append s
  | insert | superscript | subscript =>
    exact (ignoresEnd_delimited (by decide) (by decide) he).passesReturn.replace_append s
  | delete =>
    simp only [Rule.apply, writeDeletions]
    split
    · exact (ignoresEnd_deletedSpan he).passesReturn.replace_append s
    · exact (ignoresEnd_delimited (by decide) (by decide) he).passesReturn.replace_append s
  | image => exact (ignoresEnd_imageSpan he).passesReturn.replace_append s
  | link =>
    have piped := (ignoresEnd_pipedLink he).passesReturn.replace_append (f := fun (label, target) =>
      "[".toList ++ label ++ "](".toList ++ target ++ ")".toList) s
    simp only [Rule.apply, writeLinks, convertPipedLinks, piped]
    exact (ignoresEnd_bareLink he).passesReturn.replace_append _
  | noFormat => exact (ignoresEnd_marker (by decide)).passesReturn.replace_append s
  | monospace | citation | codeBlock | quoteBlock | tableHeader | color => cases h

/-- A break of a carriage return and a line feed parts the text for these rules. -/
lemma Rule.apply_append_crlf {r : Rule} (o : Options) (h : r.isLocal = true) (a b : Text) :
    r.apply o (a ++ '\r' :: '\n' :: b) = r.apply o a ++ '\r' :: '\n' :: r.apply o b := by
  calc r.apply o (a ++ '\r' :: '\n' :: b)
      = r.apply o ((a ++ ['\r']) ++ '\n' :: b) := by simp
    _ = r.apply o (a ++ ['\r']) ++ '\n' :: r.apply o b := Rule.apply_append_break o h _ b
    _ = r.apply o a ++ '\r' :: '\n' :: r.apply o b := by
        rw [Rule.apply_append_return o h]
        simp

end Wikidown
