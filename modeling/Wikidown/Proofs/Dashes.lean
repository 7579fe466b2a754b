import Wikidown.Proofs.Marks

/-!
# Dashes of list items

A deletion begins with a dash and ink. List items are written with a dash and a space, so a text
without dashes of its own holds no deletion when its turn comes: up to there every rule keeps each
dash in front of a space (`leads_dash_apply`). Striking deletions through then changes nothing
(`convert_strikethrough`).
-/

namespace Wikidown

open Pattern Markup

/-- The dash of a list item, with the space behind it. -/
def bullet : Text :=
  "- ".toList

variable {s : Text}

/-- What follows the dash of a deletion is ink. -/
lemma read_deletedSpan_bullet (b : Option Char) (r : Text) :
    deletedSpan.read b (bullet ++ r) = none := by
  cases hr : deletedSpan.read b (bullet ++ r) with
  | none => rfl
  | some m =>
    obtain ⟨haround, hfits⟩ := read_filter_iff.1 hr
    obtain ⟨y, a, ha⟩ := List.exists_cons_of_ne_nil (read_around_iff.1 haround).2
    have hink : isBlank y = false := by
      simp only [Bool.and_eq_true, startsInk, ha] at hfits
      simpa using hfits.1.1.2
    have hs := source_append_rest hr
    rw [deletedSpan_source hr, ha] at hs
    have hy : y = ' ' := by
      injection hs with _ hs
      injection hs
    rw [hy] at hink
    cases hink

/-- No deletion is found where each dash stands in front of a space. -/
lemma writeDeletions_of_leads (h : Text.Leads '-' [bullet] s) (strikethrough : Bool) :
    writeDeletions strikethrough s = s := by
  cases strikethrough with
  | false => exact writeDeletions_false s
  | true =>
    refine opensWith_deletedSpan.replace_eq_self_of_leads (fun w hw b r => ?_) h
    rw [List.mem_singleton.1 hw]
    exact read_deletedSpan_bullet b r

lemma leads_dash_renderItem (run : Text) : Text.Leads '-' [bullet] (renderItem run []) := by
  have hmarker : Text.Leads '-' [bullet] (itemMarker run ++ " ".toList ++ []) := by
    rw [itemMarker]
    split <;> decide
  rw [renderItem, List.append_assoc, List.append_assoc]
  refine .append (.of_not_mem fun h => ?_) (by simpa using hmarker)
  cases List.eq_of_mem_replicate h

/-- A mark that is read does not begin with a space, and what is written holds no dash but those of
list items. -/
lemma Rule.Writes.dash {r : Rule} {u v : Text} (hr : r ∈ Rule.before .delete)
    (h : r.Writes u v) : Text.stops [bullet] u = true ∧ Text.Leads '-' [bullet] v := by
  cases h with
  | fixed hm =>
    have key : ∀ r ∈ Rule.before .delete, ∀ m ∈ r.rewordings,
        Text.stops [bullet] m.1 = true ∧ Text.Leads '-' [bullet] m.2 := by decide
    exact key r hr _ hm
  | @run run hne hrun =>
    obtain ⟨x, run, rfl⟩ := List.exists_cons_of_ne_nil hne
    have hx : x ≠ ' ' := by
      rintro rfl
      cases hrun _ List.mem_cons_self
    exact ⟨by simp [Text.stops, bullet, hx], leads_dash_renderItem _⟩
  | language | quote | row => exact absurd hr (by decide)

lemma leads_dash_apply (o : Options) {r : Rule} (hr : r ∈ Rule.before .delete)
    (h : Text.Leads '-' [bullet] s) : Text.Leads '-' [bullet] (r.apply o s) := by
  have ht : r ≠ .tableHeader := by
    rintro rfl
    exact absurd hr (by decide)
  exact (Rule.reworded_apply o ht s).leads (fun _ _ hw => hw.dash hr) h

/-- Only the rule for deletions looks at the option. -/
lemma Rule.apply_eq_of_ne_delete {r : Rule} (h : r ≠ .delete) (o o' : Options) :
    r.apply o = r.apply o' := by
  cases r with
  | delete => exact absurd rfl h
  | _ => rfl

lemma Rule.applyAll_eq_of_not_mem_delete {rs : List Rule} (h : Rule.delete ∉ rs) (o o' : Options)
    (s : Text) : applyAll o rs s = applyAll o' rs s :=
  List.foldl_ext _ _ s fun _ r hr => by
    rw [apply_eq_of_ne_delete (ne_of_mem_of_not_mem hr h) o o']

/-- What stands in a text without dashes when the deletions have their turn. -/
lemma leads_dash_applyAll (o : Options) (h : '-' ∉ s) :
    Text.Leads '-' [bullet] (Rule.applyAll o (Rule.before .delete) s) :=
  Rule.applyAll_induction (fun _ hr _ => leads_dash_apply o hr) (.of_not_mem h)

/-- In a text without dashes no deletion is found, also not between the dashes of list items, so the
option to strike deletions through does not matter; and without it every text stays as it is. -/
theorem convert_strikethrough :
    (∀ s : Text, '-' ∉ s →
        (∀ o, Rule.delete.apply ⟨true⟩ (Rule.applyAll o (Rule.before .delete) s) =
            Rule.applyAll o (Rule.before .delete) s) ∧
          convert ⟨true⟩ s = convert ⟨false⟩ s) ∧
      ∀ s : Text, Rule.delete.apply ⟨false⟩ s = s := by
  refine ⟨fun s hs => ?_, writeDeletions_false⟩
  -- under either option the rule changes nothing, and no other rule looks at it
  have hstill : ∀ o b, Rule.delete.apply ⟨b⟩ (Rule.applyAll o (Rule.before .delete) s) =
      Rule.applyAll o (Rule.before .delete) s :=
    fun o b => writeDeletions_of_leads (leads_dash_applyAll o hs) b
  refine ⟨fun o => hstill o true, ?_⟩
  have hconvert : ∀ b, convert ⟨b⟩ s = Rule.applyAll ⟨b⟩ (Rule.all.drop 10)
      (Rule.delete.apply ⟨b⟩ (Rule.applyAll ⟨b⟩ (Rule.before .delete) s)) := fun b => rfl
  have hbefore : Rule.delete ∉ Rule.before .delete := by decide
  have hafter : Rule.delete ∉ Rule.all.drop 10 := by decide
  rw [hconvert, hconvert, hstill, hstill,
    Rule.applyAll_eq_of_not_mem_delete hbefore ⟨true⟩ ⟨false⟩,
    Rule.applyAll_eq_of_not_mem_delete hafter ⟨true⟩ ⟨false⟩]

/-- Two items with a superscript and strong text in them: their dashes stand in front of spaces. -/
theorem convert_strikethrough_items :
    convert ⟨true⟩ "+ a\n## *b*^c^\n* *d".toList =
        convert ⟨false⟩ "+ a\n## *b*^c^\n* *d".toList ∧
      convert ⟨false⟩ "+ a\n## *b*^c^\n* *d".toList =
        "  - a\n      1. **b**<sup>c</sup>\n  - *d".toList :=
  ⟨(convert_strikethrough.1 _ (by decide)).2, by decide +kernel⟩

end Wikidown
