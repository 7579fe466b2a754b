import Mathlib.Data.List.Nodup
import Wikidown.Proofs.Marks

/-!
# Tags

Five rules write a text between an opening and a closing tag (`tagPairs`). A text without angle
brackets and square brackets of its own holds no other tags, and it holds no link when links have
their turn. From the citations on, each `<` of the text begins a tag, so no mark that a rule reads
can cut a tag in two, and no mark that it writes can complete one. Hence each rule keeps the tags
that it does not write itself (`keepsTags_apply`), and the rule that writes a pair of tags writes
them by turns (`alternates_apply`). So they stand by turns in the converted document
(`convert_tags`).
-/

namespace Wikidown

open Pattern Markup

/-- The rules that write tags, each with its opening and its closing tag. -/
def tagPairs : List (Rule × Text × Text) :=
  [(.citation, "<cite>".toList, "</cite>".toList), (.insert, "<ins>".toList, "</ins>".toList),
    (.superscript, "<sup>".toList, "</sup>".toList), (.subscript, "<sub>".toList, "</sub>".toList),
    (.color, "<span style=\"color:".toList, "</span>".toList)]

/-- All tags. -/
def tags : List Text :=
  tagPairs.flatMap fun t => [t.2.1, t.2.2]

/-- The tags of a pair stand in the text by turns, an opening one first and a closing one last. -/
def Alternates (g : Text × Text) (s : Text) : Prop :=
  ∃ n, Text.found [g.1, g.2] s = (List.replicate n [g.1, g.2]).flatten

/-- If each `<` of the first text begins a tag, so does each of the second, and the given tags stay
as they are. -/
def KeepsTags (ws : List Text) (s t : Text) : Prop :=
  Text.Leads '<' tags s → Text.Leads '<' tags t ∧ Text.found ws t = Text.found ws s

variable {o : Options} {r : Rule} {ws : List Text} {g : Text × Text} {s t u v c p q : Text}

lemma closes_of_leads_tags (h : Text.Leads '<' tags s) : Text.Closes tags s :=
  h.closes (by decide) (by decide)

lemma found_append_of_leads_tags (hws : ws ⊆ tags) (h : Text.Leads '<' tags s) (t : Text) :
    Text.found ws (s ++ t) = Text.found ws s ++ Text.found ws t :=
  Text.found_append ((closes_of_leads_tags h).subset hws).parted

namespace KeepsTags

lemma refl (ws : List Text) (s : Text) : KeepsTags ws s s :=
  fun h => ⟨h, rfl⟩

lemma trans {s' : Text} (h : KeepsTags ws s t) (h' : KeepsTags ws t s') : KeepsTags ws s s' :=
  fun hs => ⟨(h' (h hs).1).1, (h' (h hs).1).2.trans (h hs).2⟩

/-- Writing a mark in which each `<` begins a tag for one that takes no part in any tag. -/
lemma of_foreign (hws : ws ⊆ tags) (hu : Text.foreign tags u = true) (hv : Text.Leads '<' tags v)
    (hnone : Text.found ws v = []) (p q : Text) :
    KeepsTags ws (p ++ (u ++ q)) (p ++ (v ++ q)) := by
  intro h
  have hp : Text.Leads '<' tags p := h.left (Text.foreign_iff.1 hu).1
  have hq : Text.Leads '<' tags q := h.suffix ⟨p ++ u, by simp⟩
  refine ⟨hp.append (hv.append hq), ?_⟩
  rw [found_append_of_leads_tags hws hp, found_append_of_leads_tags hws hv, hnone, List.nil_append,
    Text.found_append_of_foreign (Text.foreign_subset hu hws)]

lemma of_quote (hws : ws ⊆ tags) (p c q : Text) :
    KeepsTags ws (p ++ ("\x7bquote\x7d".toList ++ c ++ "\x7bquote\x7d".toList ++ q))
      (p ++ (renderQuote c ++ q)) := by
  have hquote : Text.foreign tags "\x7bquote\x7d".toList = true := by decide
  have hn : Text.foreign tags "\n".toList = true := by decide
  have hr : Text.foreign tags "\r\n".toList = true := by decide
  have hstops : Text.stops tags "\x7bquote\x7d".toList = true := (Text.foreign_iff.1 hquote).1
  rw [List.append_assoc, List.append_assoc]
  intro h
  have hp : Text.Leads '<' tags p := h.left hstops
  have hcq : Text.Leads '<' tags (c ++ ("\x7bquote\x7d".toList ++ q)) :=
    h.suffix ⟨p ++ "\x7bquote\x7d".toList, by simp⟩
  have hc : Text.Leads '<' tags c := hcq.left hstops
  have hq : Text.Leads '<' tags q := hcq.suffix ⟨c ++ "\x7bquote\x7d".toList, by simp⟩
  have hwritten : Text.Leads '<' tags (renderQuote c) :=
    Rule.leads_renderQuote (Text.foreign_iff.1 hn).1 (Text.foreign_iff.1 hr).1 (by decide) hc
  have hfound : Text.found ws (renderQuote c) = Text.found ws c :=
    Rule.found_renderQuote (Text.foreign_subset hn hws) (Text.foreign_subset hr hws)
      (Text.silent_subset (by decide) hws) c
  have hforeign : Text.foreign ws "\x7bquote\x7d".toList = true := Text.foreign_subset hquote hws
  refine ⟨hp.append (hwritten.append hq), ?_⟩
  rw [found_append_of_leads_tags hws hp, found_append_of_leads_tags hws hwritten, hfound,
    Text.found_append_of_foreign hforeign, Text.found_append_of_foreign hforeign]

end KeepsTags

/-- The rules from the citations on, but that for links. -/
def tagRules : List Rule :=
  (Rule.all.drop 5).erase .link

lemma silent_of_not_mem (hws : ws ⊆ tags) (h : '<' ∉ v) : Text.silent ws v = true := by
  refine Text.silent_iff.2 fun w hw => ?_
  have hhead : ∀ w ∈ tags, w.head? = some '<' := by decide
  obtain ⟨t, rfl⟩ := List.head?_eq_some_iff.1 (hhead w (hws hw))
  exact ⟨'<', t, rfl, h⟩

lemma KeepsTags.of_not_mem (hws : ws ⊆ tags) (hu : Text.foreign tags u = true) (hv : '<' ∉ v)
    (p q : Text) : KeepsTags ws (p ++ (u ++ q)) (p ++ (v ++ q)) :=
  .of_foreign hws hu (.of_not_mem hv) (Text.found_of_silent (silent_of_not_mem hws hv)) p q

/-- What a rule writes keeps all tags but its own. -/
lemma Rule.Writes.keepsTags (hr : r ∈ tagRules) (hws : ws ⊆ tags)
    (hown : ∀ m ∈ r.rewordings, Text.found ws m.2 = []) (h : r.Writes u v) (p q : Text) :
    KeepsTags ws (p ++ (u ++ q)) (p ++ (v ++ q)) := by
  cases h with
  | fixed hm =>
    have key : ∀ r ∈ tagRules, ∀ m ∈ r.rewordings,
        Text.foreign tags m.1 = true ∧ Text.Leads '<' tags m.2 := by decide
    exact .of_foreign hws (key r hr _ hm).1 (key r hr _ hm).2 (hown _ hm) p q
  | @language l hl =>
    have hl : '<' ∉ l := fun h => by cases hl _ h
    have hread : Text.foreign tags ("\x7bcode:".toList ++ l ++ "\x7d".toList) = true :=
      Text.foreign_iff.2 ⟨rfl, silent_of_not_mem (List.Subset.refl tags) (by simp [hl])⟩
    exact .of_not_mem hws hread (by simp [fence, hl]) p q
  | quote => exact .of_quote hws p _ q
  | @row n =>
    have hrow := ((Rule.Writes.row (n := n)).subset_markup (.inr rfl)).2
    exact .of_not_mem hws (by decide) (fun h => absurd (hrow h) (by decide)) p q
  | run => simp [tagRules, Rule.all] at hr

lemma keepsTags_apply (o : Options) (hr : r ∈ tagRules) (hws : ws ⊆ tags)
    (hown : ∀ m ∈ r.rewordings, Text.found ws m.2 = []) (s : Text) :
    KeepsTags ws s (r.apply o s) := by
  have hbreak : Text.foreign tags ['\n'] = true := by decide
  -- tables are reworded only with a line feed behind them, and no tag holds one
  have key : KeepsTags ws (s ++ ['\n']) (r.apply o s ++ ['\n']) :=
    (Rule.reworded_apply_break o r s).rel (KeepsTags.refl ws) .trans
      fun p u v q h => h.keepsTags hr hws hown p q
  intro h
  obtain ⟨hleads, hfound⟩ := key (h.append (.of_not_mem (by decide)))
  rw [Text.found_append_foreign (Text.foreign_subset hbreak hws),
    Text.found_append_foreign (Text.foreign_subset hbreak hws)] at hfound
  exact ⟨Text.Leads.left (s := []) (by simpa using hleads) (Text.foreign_iff.1 hbreak).1, hfound⟩

/-! ## The rules that write tags -/

lemma mem_tags {t : Rule × Text × Text} (ht : t ∈ tagPairs) : [t.2.1, t.2.2] ⊆ tags :=
  fun _ hw => List.mem_flatMap.2 ⟨t, ht, hw⟩

/-- A text between the tags of a pair, in front of a text in which the tags stand by turns. -/
lemma Alternates.cons {t : Rule × Text × Text} {x : Text} (ht : t ∈ tagPairs)
    (hp : Text.Leads '<' tags p) (hp_none : Text.found [t.2.1, t.2.2] p = [])
    (hx : Text.Leads '<' tags x) (hx_none : Text.found [t.2.1, t.2.2] x = [])
    (h : Alternates t.2 q) : Alternates t.2 (p ++ (t.2.1 ++ (x ++ (t.2.2 ++ q)))) := by
  have hpair : ∀ t ∈ tagPairs, Text.Leads '<' tags t.2.1 ∧ Text.Leads '<' tags t.2.2 ∧
      Text.found [t.2.1, t.2.2] t.2.1 = [t.2.1] ∧ Text.found [t.2.1, t.2.2] t.2.2 = [t.2.2] := by
    decide
  obtain ⟨hopen, hclose, hopened, hclosed⟩ := hpair t ht
  obtain ⟨n, hn⟩ := h
  refine ⟨n + 1, ?_⟩
  rw [found_append_of_leads_tags (mem_tags ht) hp, found_append_of_leads_tags (mem_tags ht) hopen,
    found_append_of_leads_tags (mem_tags ht) hx, found_append_of_leads_tags (mem_tags ht) hclose,
    hp_none, hopened, hx_none, hclosed, hn]
  rfl

/-- Where spans are written between the tags of a pair, and no tag of the pair stands in the text,
the tags stand by turns in what is written. -/
lemma alternates_replace {α : Type} {pat : Pattern α} {f : α → Text} {t : Rule × Text × Text}
    (ht : t ∈ tagPairs)
    (h : ∀ b s m, pat.read b s = some m → ∃ u y v x, m.source = u ++ (y ++ v) ∧
      f m.captured = t.2.1 ++ (x ++ t.2.2) ∧ Text.stops tags u = true ∧ Text.stops tags v = true ∧
        KeepsTags [t.2.1, t.2.2] y x)
    (hs : Text.Leads '<' tags s) (hnone : Text.found [t.2.1, t.2.2] s = []) :
    Alternates t.2 (pat.replace f s) := by
  -- the text in front is what has been passed over since the last span; it may end within a tag
  suffices key : ∀ b p, Text.Leads '<' tags (p ++ s) → Text.found [t.2.1, t.2.2] (p ++ s) = [] →
      Alternates t.2 (p ++ pat.rewrite f b s) from key none [] hs hnone
  clear hs hnone
  intro b
  induction b, s using readInduction pat with
  | nil b => exact fun p _ hnone => ⟨0, by simpa using hnone⟩
  | plain b c s hr ih =>
    intro p hp hnone
    have hstep := ih (p ++ [c])
    rw [rewrite_plain hr]
    simpa using hstep (by simpa using hp) (by simpa using hnone)
  | span b s m hr ih =>
    intro p hp hnone
    obtain ⟨u, y, v, x, hsource, hwritten, hu, hv, hkeep⟩ := h b s m hr
    have hsplit : s = u ++ (y ++ (v ++ m.rest)) := by
      rw [← source_append_rest hr, hsource]
      simp
    rw [hsplit] at hp hnone
    have hinner : Text.Leads '<' tags (y ++ (v ++ m.rest)) := hp.suffix ⟨p ++ u, by simp⟩
    have hrest : Text.Leads '<' tags m.rest := hinner.suffix ⟨y ++ v, by simp⟩
    have hp_none : Text.found [t.2.1, t.2.2] p = [] :=
      Text.found_eq_nil_of_isInfix hnone (List.prefix_append p _).isInfix
    have hy_none : Text.found [t.2.1, t.2.2] y = [] :=
      Text.found_eq_nil_of_isInfix hnone ⟨p ++ u, v ++ m.rest, by simp⟩
    have hrest_none : Text.found [t.2.1, t.2.2] m.rest = [] :=
      Text.found_eq_nil_of_isInfix hnone ⟨p ++ (u ++ (y ++ v)), [], by simp⟩
    obtain ⟨hx, hxy⟩ := hkeep (hinner.left hv)
    have hturns : Alternates t.2 (pat.rewrite f m.source.getLast? m.rest) :=
      ih [] hrest hrest_none
    rw [rewrite_span hr, hwritten, List.append_assoc, List.append_assoc]
    exact .cons ht (hp.left hu) hp_none hx (hxy.trans hy_none) hturns

lemma alternates_around {d : Char} {m closing : Text} {inside : Char → Bool} {f : Text → Text}
    {t : Rule × Text × Text} (ht : t ∈ tagPairs) (hf : ∀ a, f a = t.2.1 ++ (a ++ t.2.2))
    (hopen : Text.stops tags (d :: m) = true) (hclose : Text.stops tags closing = true)
    (hs : Text.Leads '<' tags s) (hnone : Text.found [t.2.1, t.2.2] s = []) :
    Alternates t.2 ((around d m inside closing).replace f s) := by
  refine alternates_replace ht (fun b z a ha => ?_) hs hnone
  exact ⟨d :: m, a.captured, closing, a.captured, by simp [around_source ha], hf _, hopen, hclose,
    .refl _ _⟩

/-- A rule that writes tags writes them by turns. -/
lemma alternates_apply (o : Options) {t : Rule × Text × Text} (ht : t ∈ tagPairs)
    (hs : Text.Leads '<' tags s) (hnone : Text.found [t.2.1, t.2.2] s = []) :
    Alternates t.2 (t.1.apply o s) := by
  have hmem := ht
  simp only [tagPairs, List.mem_cons, List.not_mem_nil, or_false] at hmem
  rcases hmem with rfl | rfl | rfl | rfl | rfl
  · exact alternates_around ht (fun a => by simp [element]) (by decide) (by decide) hs hnone
  · exact alternates_around ht (fun a => by simp [element]) (by decide) (by decide) hs hnone
  · exact alternates_around ht (fun a => by simp [element]) (by decide) (by decide) hs hnone
  · exact alternates_around ht (fun a => by simp [element]) (by decide) (by decide) hs hnone
  · -- the name of the colour stands within the opening tag and may hold tags of other pairs
    refine alternates_replace ht (fun b s m hm => ?_) hs hnone
    refine ⟨"\x7bcolor:".toList, m.captured.1 ++ ("\x7d".toList ++ m.captured.2),
      "\x7bcolor\x7d".toList, m.captured.1 ++ ("\">".toList ++ m.captured.2),
      by simp [colorSpan_source hm], by simp, by decide, by decide, ?_⟩
    exact .of_not_mem (mem_tags ht) (by decide) (by decide) _ _

/-! ## The whole conversion -/

lemma not_mem_applyAll {rs : List Rule} {x : Char} (hrs : ∀ r ∈ rs, x ∉ r.markup.toList)
    (h : x ∉ s) : x ∉ Rule.applyAll o rs s :=
  Rule.applyAll_induction (P := (x ∉ ·)) (fun r hr t => mt (Rule.mem_apply_iff o (hrs r hr) t).1) h

/-- Links are not found where brackets stand only as the empty ones of images. -/
lemma writeLinks_of_leads (h : Text.Leads '[' ["[]".toList] s) : writeLinks s = s := by
  have hempty : ∀ w ∈ ["[]".toList], ∀ b r,
      pipedLink.read b (w ++ r) = none ∧ bareLink.read b (w ++ r) = none := by
    intro w hw b r
    rw [List.mem_singleton.1 hw]
    exact ⟨rfl, rfl⟩
  have hpiped : convertPipedLinks s = s :=
    opensWith_pipedLink.replace_eq_self_of_leads (fun w hw b r => (hempty w hw b r).1) h
  rw [writeLinks, hpiped]
  exact opensWith_bareLink.replace_eq_self_of_leads (fun w hw b r => (hempty w hw b r).2) h

/-- A text without brackets of its own holds no link, so of the rules from the citations on that for
links is not needed. -/
lemma convert_eq_applyAll_tagRules (o : Options) (h : '[' ∉ s) :
    convert o s = Rule.applyAll o tagRules (Rule.applyAll o (Rule.before .citation) s) := by
  have himages : Text.Leads '[' ["[]".toList]
      (writeImages (Rule.applyAll o (Rule.before .image) s)) := by
    have key : ∀ m ∈ Rule.image.rewordings,
        Text.stops ["[]".toList] m.1 = true ∧ Text.Leads '[' ["[]".toList] m.2 := by decide
    exact (Rule.reworded_apply o (r := .image) (by decide) _).leads
      (fun _ _ hw => key _ (hw.mem_rewordings (by decide)))
      (.of_not_mem (not_mem_applyAll (by decide) h))
  have hconvert : convert o s = Rule.applyAll o (Rule.all.drop 14)
      (writeLinks (writeImages (Rule.applyAll o (Rule.before .image) s))) := rfl
  rw [hconvert, writeLinks_of_leads himages]
  rfl

/-- The rules from the citations on keep the given tags if none of them writes one of these. -/
lemma keepsTags_applyAll {rs : List Rule} (hrs : rs ⊆ tagRules) (hws : ws ⊆ tags)
    (hown : ∀ r ∈ rs, ∀ m ∈ r.rewordings, Text.found ws m.2 = []) (s : Text) :
    KeepsTags ws s (Rule.applyAll o rs s) :=
  Rule.applyAll_induction (P := KeepsTags ws s)
    (fun r hr t ht => ht.trans (keepsTags_apply o (hrs hr) hws (hown r hr) t)) (.refl ws s)

/-- The other rules, in front of and behind the one that writes a pair of tags, write neither of the
two. -/
lemma exists_tagRules_eq {t : Rule × Text × Text} (ht : t ∈ tagPairs) :
    ∃ rs rs', tagRules = rs ++ t.1 :: rs' ∧
      ∀ r ∈ rs ++ rs', ∀ m ∈ r.rewordings, Text.found [t.2.1, t.2.2] m.2 = [] := by
  have key : ∀ t ∈ tagPairs, t.1 ∈ tagRules ∧
      ∀ r ∈ tagRules, r ≠ t.1 → ∀ m ∈ r.rewordings, Text.found [t.2.1, t.2.2] m.2 = [] := by
    decide
  obtain ⟨hmem, hothers⟩ := key t ht
  obtain ⟨rs, rs', hsplit⟩ := List.append_of_mem hmem
  have hnodup : tagRules.Nodup := by decide
  rw [hsplit, List.nodup_middle, List.nodup_cons] at hnodup
  refine ⟨rs, rs', hsplit, fun r hr => hothers r ?_ (ne_of_mem_of_not_mem hr hnodup.1)⟩
  rw [hsplit, List.mem_append, List.mem_cons]
  exact (List.mem_append.1 hr).imp_right .inr

/-- In the converted form of a document without angle brackets and square brackets, the opening and
the closing tags of each pair stand by turns. -/
theorem convert_tags (o : Options) (s : Text) (hangle : '<' ∉ s) (hsquare : '[' ∉ s) :
    ∀ t ∈ tagPairs, Alternates t.2 (convert o s) := by
  intro t ht
  obtain ⟨rs, rs', hsplit, hown⟩ := exists_tagRules_eq ht
  have hmem : t.1 ∈ tagRules := hsplit ▸ List.mem_append_right _ List.mem_cons_self
  have hbefore : rs ⊆ tagRules := hsplit ▸ List.subset_append_left _ _
  have hafter : rs' ⊆ tagRules :=
    hsplit ▸ fun r hr => List.mem_append_right _ (List.mem_cons_of_mem _ hr)
  have hplain : '<' ∉ Rule.applyAll o (Rule.before .citation) s :=
    not_mem_applyAll (by decide) hangle
  have hnone : Text.found [t.2.1, t.2.2] (Rule.applyAll o (Rule.before .citation) s) = [] :=
    Text.found_of_silent (silent_of_not_mem (mem_tags ht) hplain)
  rw [convert_eq_applyAll_tagRules o hsquare, hsplit, Rule.applyAll_append, Rule.applyAll_cons]
  obtain ⟨hleads, hfound⟩ := keepsTags_applyAll (o := o) hbefore (mem_tags ht)
    (fun r hr => hown r (List.mem_append_left _ hr)) _ (.of_not_mem hplain)
  obtain ⟨n, hn⟩ := alternates_apply o ht hleads (hfound.trans hnone)
  -- as to its own tags the rule only has to leave each bracket at the beginning of one
  have htagged : Text.Leads '<' tags (t.1.apply o _) :=
    (keepsTags_apply o hmem (List.nil_subset tags) (fun _ _ => Text.found_of_silent rfl) _ hleads).1
  exact ⟨n, (keepsTags_applyAll hafter (mem_tags ht)
    (fun r hr => hown r (List.mem_append_right _ hr)) _ htagged).2.trans hn⟩

/-- Superscripts that reach over an insertion's end, and a colour with a subscript in its name. -/
theorem convert_tags_crossing :
    Alternates ("<sup>".toList, "</sup>".toList)
        (convert ⟨true⟩ "+a ^b+ c^ ^d^ \x7bcolor:~e~\x7df\x7bcolor\x7d".toList) ∧
      convert ⟨true⟩ "+a ^b+ c^ ^d^ \x7bcolor:~e~\x7df\x7bcolor\x7d".toList =
        ("<ins>a <sup>b</ins> c</sup> <sup>d</sup> ".toList ++
          "<span style=\"color:<sub>e</sub>\">f</span>".toList) :=
  ⟨convert_tags ⟨true⟩ _ (by decide) (by decide)
    (.superscript, "<sup>".toList, "</sup>".toList) (by decide), by decide +kernel⟩

end Wikidown
