import Wikidown.Proofs.Openers

/-!
# Strong text and list runs

Strong text is written before list items are read, and both use the star. A star of a run opens a
span if another mark follows it and a further star comes later (`StarOpens`). Without such a star
the run is left alone (`writeStrong_item`); with one it grows by the stars that are written
(`length_le_runLength_rewrite`), and the item is indented too far. On a line that is no item, stars
written for underscores can make one, if they stand in front of the first space (`BecomesItem`).
-/

namespace Wikidown

open Pattern Markup

/-! ## List items -/

section Items

variable {run run' s c : Text}

/-- A line begins as an item exactly if it begins with a run and a space. -/
lemma opensItem_iff :
    opensItem s = true ↔
      ∃ run c, s = run ++ ' ' :: c ∧ run ≠ [] ∧ ∀ x ∈ run, isListMark x = true := by
  constructor
  · intro h
    obtain ⟨hne, hhead⟩ : s.takeWhile isListMark ≠ [] ∧
        (s.dropWhile isListMark).head? = some ' ' := by simpa [opensItem] using h
    obtain ⟨c, hc⟩ := List.head?_eq_some_iff.1 hhead
    refine ⟨s.takeWhile isListMark, c, ?_, hne, List.all_eq_true.1 List.all_takeWhile⟩
    rw [← hc, List.takeWhile_append_dropWhile]
  · rintro ⟨run, c, rfl, hne, hrun⟩
    have hstop : (' ' :: c).takeWhile isListMark = [] := rfl
    simp [opensItem, Text.takeWhile_append_of_stop hrun hstop,
      Text.dropWhile_append_of_stop hrun hstop, hne]

/-- An item of one line is written with its indent and its marker. -/
lemma writeLists_item (hne : run ≠ []) (hrun : ∀ x ∈ run, isListMark x = true) (hc : '\n' ∉ c) :
    writeLists (run ++ ' ' :: c) = renderItem run c := by
  have hstop : (' ' :: c).takeWhile isListMark = [] := rfl
  have hafter : Text.after? " ".toList (' ' :: c) = some c := Text.after?_append [' '] c
  obtain ⟨htake, hdrop⟩ := takeWhile_inLine hc
  have hread : listItem.read none (run ++ ' ' :: c ++ []) =
      some ⟨run ++ ' ' :: c, (run, c), []⟩ := by
    rw [List.append_nil, listItem, read_atLineStart_iff]
    refine ⟨?_, .inl rfl⟩
    simp only [Text.takeWhile_append_of_stop hrun hstop, Text.dropWhile_append_of_stop hrun hstop,
      if_neg hne, hafter, Option.map_some, htake, hdrop]
    simp
  exact (rewrites_span hread rfl).replace_eq

lemma writeLists_eq_self (hn : '\n' ∉ s) (hi : opensItem s = false) : writeLists s = s := by
  refine (takesLine_listItem.rewrites_of_read hn ?_).replace_eq
  cases hr : listItem.read none (s ++ []) with
  | none => rfl
  | some m =>
    have := opensItem_of_read hr
    simp [hi] at this

lemma two_le_listIndent (n : Int) : 2 ≤ listIndent n := by
  rw [listIndent]
  split <;> omega

lemma listIndent_lt {m n : Int} (hm : 0 < m) (h : m < n) : listIndent m < listIndent n := by
  simp only [listIndent]
  split <;> split <;> omega

/-- The blanks in front of an item are those of its indent. -/
lemma takeWhile_renderItem :
    (renderItem run c).takeWhile (· == ' ') =
      List.replicate (listIndent run.length).toNat ' ' := by
  rw [renderItem, List.append_assoc, List.append_assoc]
  refine Text.takeWhile_append_of_stop (fun x hx => by simp [List.eq_of_mem_replicate hx]) ?_
  rw [itemMarker]
  split <;> rfl

/-- Items with runs of different lengths are written differently. -/
lemma renderItem_ne {c' : Text} (hne : run ≠ []) (h : run.length < run'.length) :
    renderItem run' c' ≠ renderItem run c := by
  intro e
  have hlen := congrArg (fun t => (t.takeWhile (· == ' ')).length) e
  simp only [takeWhile_renderItem, List.length_replicate] at hlen
  have hpos : 0 < run.length := List.length_pos_iff.2 hne
  have hlt : listIndent run.length < listIndent run'.length :=
    listIndent_lt (by omega) (by omega)
  have htwo := two_le_listIndent run.length
  omega

/-- An item is not written as a text that begins with a list mark. -/
lemma renderItem_ne_cons {x : Char} (hx : isListMark x = true) : x :: s ≠ renderItem run c := by
  intro e
  have htake := congrArg (·.takeWhile (· == ' ')) e
  have hspace : (x == ' ') = false := by
    rw [beq_eq_false_iff_ne]
    rintro rfl
    cases hx
  have htwo := two_le_listIndent run.length
  obtain ⟨k, hk⟩ : ∃ k, (listIndent run.length).toNat = k + 1 :=
    ⟨(listIndent run.length).toNat - 1, by omega⟩
  simp [takeWhile_renderItem, hspace, hk, List.replicate_succ] at htake

end Items

/-! ## Stars that open in a run -/

/-- A star of the run opens a span: another mark follows it, and a further star comes later. -/
def StarOpens (run content : Text) : Prop :=
  ∃ u x v, run = u ++ '*' :: x :: v ∧ x ≠ '*' ∧ '*' ∈ v ++ content

section Strong

variable {run content s t w : Text} {b : Option Char} {x : Char}

lemma isBlank_of_isListMark (h : isListMark x = true) : isBlank x = false := by
  simp only [isListMark, Bool.or_eq_true, beq_iff_eq] at h
  rcases h with ((rfl | rfl) | rfl) | rfl <;> rfl

/-- A star with ink behind it opens a span if a further star comes on its line. -/
lemma exists_read_star (hx : x ≠ '*') (hb : isBlank x = false) (hn : '\n' ∉ t) (ht : '*' ∈ t) :
    ∃ m, strongSpan.read b ('*' :: x :: t) = some m := by
  obtain ⟨w, r, rfl, hw⟩ := List.eq_append_cons_of_mem ht
  have hline : x ≠ '\n' := by
    rintro rfl
    cases hb
  have hin : ∀ y ∈ x :: w, lineRun '*' y = true := by
    simp only [List.forall_mem_cons, lineRun, Bool.and_eq_true, bne_iff_ne]
    refine ⟨⟨hx, hline⟩, fun y hy => ⟨ne_of_mem_of_not_mem hy hw, ?_⟩⟩
    exact ne_of_mem_of_not_mem (List.mem_append_left _ hy) hn
  have hread : (delimited '*').read b ('*' :: (x :: w) ++ ['*'] ++ r) =
      some ⟨'*' :: (x :: w) ++ ['*'], x :: w, r⟩ :=
    read_around_of_closes (List.cons_ne_nil x w) hin (by simp [lineRun])
  have hstar : (emphasis '*').read b ('*' :: (x :: w) ++ ['*'] ++ r) =
      some ⟨'*' :: (x :: w) ++ ['*'], x :: w, r⟩ :=
    read_filter_iff.2 ⟨hread, by simp [startsInk, hb]⟩
  have hstrong : strongSpan.read b ('*' :: (x :: w) ++ ['*'] ++ r) = _ :=
    read_orElse_iff.2 (.inl hstar)
  exact ⟨_, by simpa using hstrong⟩

/-- What a span that a star opens looks like. -/
lemma read_star {m : Span Text} (h : strongSpan.read b ('*' :: t) = some m) :
    t = m.captured ++ '*' :: m.rest ∧ '*' ∉ m.captured ∧ startsInk m.captured = true := by
  rcases read_orElse_iff.1 h with h | ⟨-, h⟩
  · obtain ⟨hread, hink⟩ := read_filter_iff.1 h
    obtain ⟨hs, hsource, hin, -⟩ := read_between_iff.1 (read_around_iff.1 hread).1
    rw [hsource] at hs
    exact ⟨by simpa using hs, fun hm => by simpa [lineRun] using hin _ hm, hink⟩
  · rw [opensWith_emphasis.read_eq_none (by decide)] at h
    cases h

/-- A star in front of the rest of a run opens a span exactly if another mark and a further star
come behind it. -/
lemma read_star_run_iff (hrun : ∀ x ∈ run, isListMark x = true) (hc : '\n' ∉ content) :
    (∃ m, strongSpan.read b ('*' :: (run ++ ' ' :: content)) = some m) ↔
      ∃ x v, run = x :: v ∧ x ≠ '*' ∧ '*' ∈ v ++ content := by
  constructor
  · rintro ⟨m, h⟩
    obtain ⟨hs, hstar, hink⟩ := read_star h
    obtain ⟨z, w, hz, hblank⟩ := Text.exists_cons_of_any_head? hink
    rw [hz] at hs hstar
    cases run with
    | nil =>
      cases hs
      cases hblank
    | cons x v =>
      obtain ⟨rfl, hv⟩ : x = z ∧ v ++ ' ' :: content = w ++ '*' :: m.rest := by simpa using hs
      refine ⟨x, v, rfl, fun e => hstar (by simp [e]), ?_⟩
      have hmem : '*' ∈ v ++ ' ' :: content := hv ▸ by simp
      simpa using hmem
  · rintro ⟨x, v, rfl, hx, hv⟩
    have hblank : isBlank x = false := isBlank_of_isListMark (hrun x List.mem_cons_self)
    have hn : '\n' ∉ v ++ ' ' :: content := by
      simp only [List.mem_append, List.mem_cons, not_or]
      refine ⟨fun hm => ?_, by decide, hc⟩
      cases hrun _ (List.mem_cons_of_mem x hm)
    exact exists_read_star hx hblank hn (by simpa using hv)

lemma starOpens_cons :
    StarOpens (x :: run) content ↔
      (x = '*' ∧ ∃ y v, run = y :: v ∧ y ≠ '*' ∧ '*' ∈ v ++ content) ∨ StarOpens run content := by
  constructor
  · rintro ⟨u, y, v, hu, hy, hv⟩
    cases u with
    | nil =>
      obtain ⟨rfl, rfl⟩ : x = '*' ∧ run = y :: v := by simpa using hu
      exact .inl ⟨rfl, y, v, rfl, hy, hv⟩
    | cons z u =>
      obtain ⟨rfl, rfl⟩ : x = z ∧ run = u ++ '*' :: y :: v := by simpa using hu
      exact .inr ⟨u, y, v, rfl, hy, hv⟩
  · rintro (⟨rfl, y, v, rfl, hy, hv⟩ | ⟨u, y, v, rfl, hy, hv⟩)
    · exact ⟨[], y, v, rfl, hy, hv⟩
    · exact ⟨x :: u, y, v, rfl, hy, hv⟩

/-- At a list mark other than a star no span begins. -/
lemma read_listMark (hx : isListMark x = true) (hne : x ≠ '*') (b : Option Char) (s : Text) :
    strongSpan.read b (x :: s) = none := by
  refine opensWith_strongSpan.read_eq_none ?_ b s
  have hunder : x ≠ '_' := by
    rintro rfl
    cases hx
  simp [hne, hunder]

/-- Behind a run stands the same as at the front of the text. -/
lemma rewrite_space (f : Text → Text) (b : Option Char) (s : Text) :
    strongSpan.rewrite f b (' ' :: s) = ' ' :: strongSpan.replace f s := by
  rw [rewrite_plain (opensWith_strongSpan.read_eq_none (by decide) _ _)]
  exact congrArg (' ' :: ·) (rewrite_congr rfl)

/-- A run without a star that opens is left alone. -/
lemma writeStrong_item (hrun : ∀ x ∈ run, isListMark x = true) (hc : '\n' ∉ content)
    (h : ¬ StarOpens run content) :
    writeStrong (run ++ ' ' :: content) = run ++ ' ' :: writeStrong content := by
  have hkept : strongSpan.Rewrites (fun a => "**".toList ++ a ++ "**".toList) none run run
      (' ' :: content) := by
    apply rewrites_self
    intro u v hu hv
    obtain ⟨y, v, rfl⟩ := List.exists_cons_of_ne_nil hv
    subst hu
    obtain ⟨hy, hmarks⟩ := List.forall_mem_cons.1 (List.forall_mem_append.1 hrun).2
    by_cases hstar : y = '*'
    · subst hstar
      cases hr : strongSpan.read (u.getLast?.or none) ('*' :: (v ++ ' ' :: content)) with
      | none => exact hr
      | some m =>
        obtain ⟨x, w, rfl, hx, hw⟩ := (read_star_run_iff hmarks hc).1 ⟨m, hr⟩
        exact absurd ⟨u, x, w, rfl, hx, hw⟩ h
    · exact read_listMark hy hstar _ _
  rw [Rewrites, rewrite_space] at hkept
  exact hkept

/-! ## Runs that grow -/

/-- How many list marks a text begins with. -/
def runLength (s : Text) : Nat :=
  (s.takeWhile isListMark).length

lemma runLength_append (hs : ∀ x ∈ s, isListMark x = true) :
    runLength (s ++ t) = s.length + runLength t := by
  rw [runLength, List.takeWhile_append_of_pos hs, List.length_append, runLength]

/-- A span that a star opens is written with more list marks than the star and the rest of its run
had, as long as what is left of the run behind the span is not written shorter. -/
lemma length_lt_runLength_span {a r : Text} (hrun : ∀ x ∈ run, isListMark x = true)
    (hs : run ++ ' ' :: content = a ++ '*' :: r)
    (hr : ∀ w, r = w ++ ' ' :: content → (∀ x ∈ w, isListMark x = true) → w.length ≤ runLength t) :
    run.length + 1 < runLength ("**".toList ++ a ++ "**".toList ++ t) := by
  have hstars : ∀ x ∈ "**".toList, isListMark x = true := List.all_eq_true.1 (by decide)
  have htwo : "**".toList.length = 2 := rfl
  -- the span is closed behind the run, or within it
  rcases List.append_eq_append_iff.1 hs with ⟨w, rfl, -⟩ | ⟨w, rfl, hclose⟩
  · have hlen := runLength_append (s := "**".toList ++ run) (t := w ++ "**".toList ++ t)
      (List.forall_mem_append.2 ⟨hstars, hrun⟩)
    simp only [List.append_assoc, List.length_append] at hlen ⊢
    omega
  · obtain ⟨ha, hw⟩ := List.forall_mem_append.1 hrun
    cases w with
    | nil => cases hclose
    | cons z w =>
      obtain ⟨rfl, hrest⟩ : '*' = z ∧ r = w ++ ' ' :: content := by simpa using hclose
      have hle := hr w hrest (List.forall_mem_cons.1 hw).2
      have hlen := runLength_append (s := "**".toList ++ a ++ "**".toList) (t := t)
        (List.forall_mem_append.2 ⟨List.forall_mem_append.2 ⟨hstars, ha⟩, hstars⟩)
      simp only [List.length_append, List.length_cons] at hlen ⊢
      omega

/-- A run is never written shorter, and with a star that opens it is written longer. -/
lemma length_le_runLength_rewrite {f : Text → Text}
    (hf : ∀ a, f a = "**".toList ++ a ++ "**".toList) (hc : '\n' ∉ content) (b : Option Char)
    (s : Text) :
    ∀ run, s = run ++ ' ' :: content → (∀ x ∈ run, isListMark x = true) →
      run.length ≤ runLength (strongSpan.rewrite f b s) ∧
        (StarOpens run content → run.length < runLength (strongSpan.rewrite f b s)) := by
  induction b, s using readInduction strongSpan with
  | nil b =>
    intro run hs
    simp at hs
  | plain b y t hr ih =>
    intro run hs hrun
    cases run with
    | nil =>
      refine ⟨Nat.zero_le _, ?_⟩
      rintro ⟨u, x, v, hu, -⟩
      simp at hu
    | cons z run =>
      obtain ⟨rfl, rfl⟩ : y = z ∧ t = run ++ ' ' :: content := by simpa using hs
      obtain ⟨hy, hrest⟩ := List.forall_mem_cons.1 hrun
      obtain ⟨hle, hlt⟩ := ih run rfl hrest
      have hone : runLength (strongSpan.rewrite f b (y :: (run ++ ' ' :: content))) =
          1 + runLength (strongSpan.rewrite f (some y) (run ++ ' ' :: content)) := by
        rw [rewrite_plain hr]
        exact runLength_append (s := [y]) (by simpa using hy)
      rw [hone, List.length_cons]
      refine ⟨by omega, fun hopens => ?_⟩
      rcases starOpens_cons.1 hopens with ⟨rfl, hread⟩ | hopens
      · -- the star would have been read
        obtain ⟨m, hm⟩ := (read_star_run_iff (b := b) hrest hc).2 hread
        rw [hr] at hm
        cases hm
      · have := hlt hopens
        omega
  | span b s m hr ih =>
    rintro run rfl hrun
    obtain ⟨y, run, rfl⟩ : ∃ y run', run = y :: run' := by
      cases run with
      | nil =>
        rw [List.nil_append, opensWith_strongSpan.read_eq_none (by decide)] at hr
        cases hr
      | cons y run => exact ⟨y, run, rfl⟩
    obtain ⟨hy, hrest⟩ := List.forall_mem_cons.1 hrun
    obtain rfl : y = '*' := by
      by_contra hstar
      rw [List.cons_append, read_listMark hy hstar] at hr
      cases hr
    obtain ⟨hs, -, -⟩ := read_star hr
    -- the span takes the star, and `ih` covers what it leaves of the run
    have hlt := length_lt_runLength_span (t := strongSpan.rewrite f m.source.getLast? m.rest) hrest
      hs fun w hw hmarks => (ih w hw hmarks).1
    rw [rewrite_span hr, hf, List.length_cons]
    exact ⟨hlt.le, fun _ => hlt⟩

lemma not_mem_writeStrong {s : Text} (h : '\n' ∉ s) : '\n' ∉ writeStrong s :=
  fun hm => h ((Rule.mem_apply_iff (r := .strong) ⟨false⟩ (by decide) s).1 hm)

/-- With a star that opens, the item is written with another indent or not at all. -/
lemma writeLists_writeStrong_ne (hne : run ≠ []) (hrun : ∀ x ∈ run, isListMark x = true)
    (hc : '\n' ∉ content) (h : StarOpens run content) (c : Text) :
    writeLists (writeStrong (run ++ ' ' :: content)) ≠ renderItem run c := by
  have hlt : run.length < runLength (writeStrong (run ++ ' ' :: content)) :=
    (length_le_runLength_rewrite (fun _ => rfl) hc none _ run rfl hrun).2 h
  have hn : '\n' ∉ writeStrong (run ++ ' ' :: content) := by
    apply not_mem_writeStrong
    simp only [List.mem_append, List.mem_cons, not_or]
    refine ⟨fun hm => ?_, by decide, hc⟩
    cases hrun _ hm
  cases hi : opensItem (writeStrong (run ++ ' ' :: content)) with
  | false =>
    rw [writeLists_eq_self hn hi]
    cases hs : writeStrong (run ++ ' ' :: content) with
    | nil =>
      rw [hs] at hlt
      exact absurd hlt (Nat.not_lt_zero _)
    | cons x t =>
      apply renderItem_ne_cons
      by_contra hx
      simp [hs, runLength, hx] at hlt
  | true =>
    obtain ⟨run', c', hs, hne', hrun'⟩ := opensItem_iff.1 hi
    rw [hs] at hlt hn ⊢
    have hc' : '\n' ∉ c' := fun hm => hn (by simp [hm])
    rw [writeLists_item hne' hrun' hc']
    apply renderItem_ne hne
    rw [runLength_append hrun'] at hlt
    exact hlt

end Strong

/-! ## Lines that become items -/

section Invented

variable {l : Text}

/-- The characters of which strong text can make a run: those of a run and the underscore. -/
def isRunMark (c : Char) : Bool :=
  isListMark c || c == '_'

/-- A line begins with list marks and underscores and then a space, and strong text leaves no
underscore in front of the first space. -/
def BecomesItem (l : Text) : Prop :=
  ∃ u v, l = u ++ ' ' :: v ∧ u ≠ [] ∧ (∀ x ∈ u, isRunMark x = true) ∧
    '_' ∉ (writeStrong l).takeWhile (· != ' ')

lemma find?_eq_space_iff :
    l.find? (fun x => !isRunMark x) = some ' ' ↔
      ∃ u v, l = u ++ ' ' :: v ∧ ∀ x ∈ u, isRunMark x = true := by
  rw [List.find?_eq_some_iff_append]
  simp only [Bool.not_not]
  exact and_iff_right rfl

/-- The first character that belongs to no run is the same before and after. -/
lemma find?_writeStrong (l : Text) :
    (writeStrong l).find? (fun x => !isRunMark x) = l.find? (fun x => !isRunMark x) := by
  rw [← List.head?_filter, ← List.head?_filter]
  have hmarks : Rule.strong.markup.toList.any (fun x => !isRunMark x) = false := by decide
  exact congrArg List.head? (Rule.filter_apply ⟨false⟩ .strong (by simpa using hmarks) l)

lemma head?_writeStrong (h : (writeStrong l).head? = some ' ') : l.head? = some ' ' :=
  head?_rewrite (fun _ _ _ hm => keepsApart_strongSpan (by decide) hm) h

lemma takeWhile_ne_space {u v : Text} (hu : ∀ x ∈ u, isRunMark x = true) :
    (u ++ ' ' :: v).takeWhile (· != ' ') = u := by
  refine Text.takeWhile_append_of_stop (fun x hx => ?_) rfl
  rw [bne_iff_ne]
  rintro rfl
  cases hu _ hx

/-- The line that strong text makes of a line begins as an item exactly if it becomes one. -/
lemma opensItem_writeStrong_iff : opensItem (writeStrong l) = true ↔ BecomesItem l := by
  rw [opensItem_iff]
  -- in both directions the space is found as the first character that belongs to no run
  constructor
  · rintro ⟨run, c, hs, hne, hrun⟩
    have hmarks : ∀ x ∈ run, isRunMark x = true := fun x hx => by simp [isRunMark, hrun x hx]
    have hfind := find?_eq_space_iff.2 ⟨run, c, hs, hmarks⟩
    rw [find?_writeStrong] at hfind
    obtain ⟨u, v, rfl, hu⟩ := find?_eq_space_iff.1 hfind
    refine ⟨u, v, rfl, ?_, hu, ?_⟩
    · rintro rfl
      obtain ⟨x, run, rfl⟩ := List.exists_cons_of_ne_nil hne
      have hx : isListMark x = true := hrun x List.mem_cons_self
      rw [List.nil_append, writeStrong, replace_eq_rewrite, rewrite_space] at hs
      obtain rfl : ' ' = x := by simpa using congrArg List.head? hs
      cases hx
    · rw [hs, takeWhile_ne_space hmarks]
      intro hm
      cases hrun _ hm
  · rintro ⟨u, v, rfl, hne, hu, hunder⟩
    have hfind := find?_eq_space_iff.2 ⟨u, v, rfl, hu⟩
    rw [← find?_writeStrong] at hfind
    obtain ⟨run, c, hs, hrun⟩ := find?_eq_space_iff.1 hfind
    rw [hs, takeWhile_ne_space hrun] at hunder
    refine ⟨run, c, hs, ?_, fun x hx => ?_⟩
    · rintro rfl
      obtain ⟨x, u, rfl⟩ := List.exists_cons_of_ne_nil hne
      have hx : isRunMark x = true := hu x List.mem_cons_self
      have hhead := head?_writeStrong (congrArg List.head? hs)
      cases hhead
      cases hx
    · have hx' : x ≠ '_' := ne_of_mem_of_not_mem hx hunder
      simpa [isRunMark, hx'] using hrun x hx

lemma writeLists_eq_self_iff {s : Text} (hn : '\n' ∉ s) :
    writeLists s = s ↔ opensItem s = false := by
  refine ⟨fun h => ?_, writeLists_eq_self hn⟩
  rw [Bool.eq_false_iff]
  intro hi
  obtain ⟨run, c, rfl, hne, hrun⟩ := opensItem_iff.1 hi
  have hc : '\n' ∉ c := fun hm => hn (by simp [hm])
  rw [writeLists_item hne hrun hc] at h
  obtain ⟨x, run, rfl⟩ := List.exists_cons_of_ne_nil hne
  exact renderItem_ne_cons (hrun x List.mem_cons_self) h.symm

end Invented

/-- Strong text leaves an item to the rule for lists exactly if no star of its run opens a span, and
any other line exactly if it does not become an item. -/
theorem writeLists_writeStrong (l : Text) (hn : '\n' ∉ l) :
    (∀ run content, l = run ++ ' ' :: content → run ≠ [] → (∀ x ∈ run, isListMark x = true) →
        (writeLists (writeStrong l) = renderItem run (writeStrong content) ↔
          ¬ StarOpens run content)) ∧
      (writeLists (writeStrong l) = writeStrong l ↔ ¬ BecomesItem l) := by
  constructor
  · rintro run content rfl hne hrun
    have hc : '\n' ∉ content := fun hm => hn (by simp [hm])
    constructor
    · intro h hopens
      exact writeLists_writeStrong_ne hne hrun hc hopens _ h
    · intro h
      rw [writeStrong_item hrun hc h, writeLists_item hne hrun (not_mem_writeStrong hc)]
  · rw [writeLists_eq_self_iff (not_mem_writeStrong hn), ← opensItem_writeStrong_iff,
      Bool.not_eq_true]

/-- A star in front of a number mark opens no span where no star follows, and a strong number mark
makes no item without a space. -/
theorem writeLists_writeStrong_single :
    writeLists (writeStrong ("*#".toList ++ ' ' :: "a _b_".toList)) = "      1. a **b**".toList ∧
      writeLists (writeStrong "_#a_ b".toList) = "**#a** b".toList := by
  constructor
  · have hopens : ¬ StarOpens "*#".toList "a _b_".toList := by
      rintro ⟨u, x, v, hu, -, hv⟩
      have hlen := congrArg List.length hu
      have hnil : v = [] := by
        apply List.eq_nil_of_length_eq_zero
        simp at hlen
        omega
      subst hnil
      exact absurd hv (by decide)
    have key := ((writeLists_writeStrong "*# a _b_".toList (by decide)).1 "*#".toList
      "a _b_".toList rfl (by simp) (List.all_eq_true.1 (by decide))).2 hopens
    exact key.trans (by decide +kernel)
  · have hitem : ¬ BecomesItem "_#a_ b".toList := by
      rw [← opensItem_writeStrong_iff]
      decide +kernel
    have key := (writeLists_writeStrong "_#a_ b".toList (by decide)).2.2 hitem
    exact key.trans (by decide +kernel)

/-- A star of the content closes a span that the run opens, so the item goes one level too deep; and
underscores around a number mark and its text make an item of a line that is none. -/
theorem writeLists_writeStrong_mixed :
    writeLists (writeStrong "*# a *b*".toList) = "          1. a **b*".toList ∧
      renderItem "*#".toList (writeStrong "a *b*".toList) = "      1. a **b**".toList ∧
        writeStrong "_# a_".toList = "**# a**".toList ∧
          writeLists (writeStrong "_# a_".toList) = "          1. a**".toList := by
  decide +kernel

end Wikidown
