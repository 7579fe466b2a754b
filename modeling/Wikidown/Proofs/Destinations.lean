import Mathlib.Data.List.Perm.Subperm
import Wikidown.Proofs.Growth

/-!
# Where paths lead

A path is read in two ways: the system walks along it as an entry is looked at or made, and it is
resolved, as far as possible, to say in advance where it leads. Where the system gets to the end,
both agree (`resolveLocation_of_locate`): no link on the way is met again inside its own target, for
the walk would then never end. A growing tree keeps its links, so a path is resolved as before
(`Grows.resolveLocation_eq`), and it keeps its directories, so a path that led somewhere leads there
still (`Grows.locate`).
-/

namespace Wikidown

namespace FileTree

variable {t t' : FileTree} {w : Set Location} {here l m : Location} {n target : String}
variable {rest names names' : List String} {visiting : List Location} {depth links i j : Nat}
variable {making : Bool}

/-- A name that leads to an entry of a directory: neither back to the directory nor up. -/
def Proper (n : String) : Prop :=
  ¬ (n = "." ∨ n = directoryMark) ∧ n ≠ ".."

/-- The target of the link at a location. -/
def linkAt? (t : FileTree) (l : Location) : Option String :=
  match t.get? l with
  | some (.link target) => some target
  | _ => none

lemma linkAt?_eq_some_iff : t.linkAt? l = some target ↔ t.get? l = some (.link target) := by
  unfold linkAt?
  split <;> simp_all

lemma linkAt?_eq_none_iff : t.linkAt? l = none ↔ ∀ target, t.get? l ≠ some (.link target) := by
  unfold linkAt?
  split <;> simp_all

lemma Grows.linkAt?_eq (h : Grows w t t') : t'.linkAt? = t.linkAt? := by
  funext l
  cases hl : t.linkAt? l with
  | none =>
    rw [linkAt?_eq_none_iff] at hl ⊢
    exact fun target ht => hl target ((h.entry l).link_iff.1 ht)
  | some target =>
    rw [linkAt?_eq_some_iff] at hl ⊢
    exact (h.entry l).link_iff.2 hl

/-! ## Following links -/

@[simp] lemma follow_nil : t.follow depth visiting here [] = ⟨here, []⟩ := by
  rw [follow]

lemma follow_stay (hn : n = "." ∨ n = directoryMark) :
    t.follow depth visiting here (n :: rest) = t.follow depth visiting here rest := by
  rw [follow, if_pos hn]

lemma follow_up :
    t.follow depth visiting here (".." :: rest) = t.follow depth visiting here.dropLast rest := by
  rw [follow, if_neg (by decide), if_pos rfl]

lemma follow_enter (hn : Proper n) (hl : t.linkAt? (here ++ [n]) = none) :
    t.follow depth visiting here (n :: rest) = t.follow depth visiting (here ++ [n]) rest := by
  rw [follow, if_neg hn.1, if_neg hn.2]
  split
  · exact absurd ‹_› (linkAt?_eq_none_iff.1 hl _)
  · rfl

lemma follow_visited (hn : Proper n) (hl : t.linkAt? (here ++ [n]) = some target)
    (hv : here ++ [n] ∈ visiting) :
    t.follow depth visiting here (n :: rest) = ⟨here, n :: rest⟩ := by
  rw [follow, if_neg hn.1, if_neg hn.2, linkAt?_eq_some_iff.1 hl]
  exact if_pos (List.contains_iff_mem.2 hv)

lemma follow_zero (hn : Proper n) (hl : t.linkAt? (here ++ [n]) = some target) :
    t.follow 0 visiting here (n :: rest) = ⟨here, n :: rest⟩ := by
  rw [follow, if_neg hn.1, if_neg hn.2, linkAt?_eq_some_iff.1 hl]
  exact ite_self _

lemma follow_link (hn : Proper n) (hl : t.linkAt? (here ++ [n]) = some target)
    (hv : here ++ [n] ∉ visiting) :
    t.follow (depth + 1) visiting here (n :: rest) =
      let inner := t.follow depth ((here ++ [n]) :: visiting) (targetStart here target)
        (targetNames target)
      if inner.left = [] then t.follow (depth + 1) visiting inner.location rest
      else ⟨inner.location, inner.left ++ rest⟩ := by
  rw [follow, if_neg hn.1, if_neg hn.2, linkAt?_eq_some_iff.1 hl]
  exact if_neg fun h => hv (List.contains_iff_mem.1 h)

/-- Two trees with the same links follow names alike. -/
lemma follow_congr (h : t'.linkAt? = t.linkAt?) (depth : Nat) (visiting : List Location)
    (here : Location) (names : List String) :
    t'.follow depth visiting here names = t.follow depth visiting here names := by
  fun_induction t.follow depth visiting here names with
  | case1 => exact follow_nil
  | case2 depth visiting here n rest hn ih => rw [follow_stay hn, ih]
  | case3 depth visiting here rest hn ih => rw [follow_up, ih]
  | case4 depth visiting here n rest hn hup target hlink hv =>
    exact follow_visited ⟨hn, hup⟩ (by rw [h, linkAt?_eq_some_iff, hlink]) (List.contains_iff_mem.1 hv)
  | case5 visiting here n rest hn hup target hlink =>
    exact follow_zero ⟨hn, hup⟩ (by rw [h, linkAt?_eq_some_iff, hlink])
  | case6 visiting here n rest hn hup target hlink hv depth inner hinner ih ih' =>
    rw [follow_link ⟨hn, hup⟩ (by rw [h, linkAt?_eq_some_iff, hlink])
      fun hmem => hv (List.contains_iff_mem.2 hmem), ih]
    exact (if_pos hinner).trans ih'
  | case7 visiting here n rest hn hup target hlink hv depth inner hinner ih =>
    rw [follow_link ⟨hn, hup⟩ (by rw [h, linkAt?_eq_some_iff, hlink])
      fun hmem => hv (List.contains_iff_mem.2 hmem), ih]
    exact if_neg hinner
  | case8 depth visiting here n rest hn hup hlink ih =>
    rw [follow_enter ⟨hn, hup⟩ (by rwa [h, linkAt?_eq_none_iff]), ih]

lemma Grows.resolveLocation_eq (h : Grows w t t') (cwd : Location) (p : Path) :
    t'.resolveLocation cwd p = t.resolveLocation cwd p := by
  simp only [resolveLocation, h.links, follow_congr h.linkAt?_eq]

/-! ## Where names lead -/

/-- From a directory names lead to a location, and a number of links is followed on the way. -/
inductive Leads (t : FileTree) : Location → List String → Location → Nat → Prop
  | nil (here : Location) : Leads t here [] here 0
  | stay {here l : Location} {n : String} {rest : List String} {i : Nat}
    (hn : n = "." ∨ n = directoryMark) (h : Leads t here rest l i) : Leads t here (n :: rest) l i
  | up {here l : Location} {rest : List String} {i : Nat} (h : Leads t here.dropLast rest l i) :
    Leads t here (".." :: rest) l i
  | enter {here l : Location} {n : String} {rest : List String} {i : Nat} (hn : Proper n)
    (hl : t.linkAt? (here ++ [n]) = none) (h : Leads t (here ++ [n]) rest l i) :
    Leads t here (n :: rest) l i
  | link {here m l : Location} {n target : String} {rest : List String} {i j : Nat} (hn : Proper n)
    (hl : t.linkAt? (here ++ [n]) = some target)
    (hm : Leads t (targetStart here target) (targetNames target) m i) (h : Leads t m rest l j) :
    Leads t here (n :: rest) l (i + j + 1)

namespace Leads

/-- What leads somewhere along two lists of names comes, between them, to the place where the second
one begins. -/
lemma exists_append (h : Leads t here (names ++ names') l i) :
    ∃ m j k, Leads t here names m j ∧ Leads t m names' l k ∧ i = j + k := by
  induction names generalizing here i with
  | nil => exact ⟨here, 0, i, .nil here, h, (Nat.zero_add i).symm⟩
  | cons n names ih =>
    cases h with
    | stay hn h =>
      obtain ⟨m, j, k, hm, hl, hi⟩ := ih h
      exact ⟨m, j, k, .stay hn hm, hl, hi⟩
    | up h =>
      obtain ⟨m, j, k, hm, hl, hi⟩ := ih h
      exact ⟨m, j, k, .up hm, hl, hi⟩
    | enter hn hlink h =>
      obtain ⟨m, j, k, hm, hl, hi⟩ := ih h
      exact ⟨m, j, k, .enter hn hlink hm, hl, hi⟩
    | link hn hlink hm h =>
      obtain ⟨m', j, k, hm', hl, rfl⟩ := ih h
      exact ⟨m', _, k, .link hn hlink hm hm', hl, by omega⟩

lemma unique (h : Leads t here names l i) (h' : Leads t here names m j) : l = m ∧ i = j := by
  induction h generalizing m j with
  | nil => cases h'; exact ⟨rfl, rfl⟩
  | stay hn _ ih =>
    cases h' with
    | stay _ h' => exact ih h'
    | up => simp [directoryMark] at hn
    | enter hn' | link hn' => exact absurd hn hn'.1
  | up _ ih =>
    cases h' with
    | stay hn => simp [directoryMark] at hn
    | up h' => exact ih h'
    | enter hn' | link hn' => exact absurd rfl hn'.2
  | enter hn hl _ ih =>
    cases h' with
    | stay hn' => exact absurd hn' hn.1
    | up => exact absurd rfl hn.2
    | enter _ _ h' => exact ih h'
    | link _ hl' => simp [hl] at hl'
  | link hn hl _ _ ih ih' =>
    cases h' with
    | stay hn' => exact absurd hn' hn.1
    | up => exact absurd rfl hn.2
    | enter _ hl' => simp [hl] at hl'
    | link _ hl' hm h' =>
      obtain rfl : _ = _ := Option.some.inj (hl.symm.trans hl')
      obtain ⟨rfl, rfl⟩ := ih hm
      obtain ⟨rfl, rfl⟩ := ih' h'
      exact ⟨rfl, rfl⟩

end Leads

/-- Each of the links at these locations, followed to the end of its target, costs no fewer links than
the given number. -/
def CostAtLeast (t : FileTree) (visiting : List Location) (i : Nat) : Prop :=
  ∀ l ∈ visiting, ∀ target m j, t.linkAt? l = some target →
    t.Leads (targetStart l.dropLast target) (targetNames target) m j → i ≤ j

lemma CostAtLeast.mono (h : t.CostAtLeast visiting i) (hij : j ≤ i) : t.CostAtLeast visiting j :=
  fun l hl target m k hlink hm => hij.trans (h l hl target m k hlink hm)

lemma length_le_countLinks (hnodup : visiting.Nodup)
    (hlinks : ∀ l ∈ visiting, (t.linkAt? l).isSome = true) : visiting.length ≤ t.countLinks := by
  rw [countLinks, List.countP_eq_length_filter, ← List.length_map (f := Prod.fst)]
  refine (List.subperm_of_subset hnodup fun l hl => ?_).length_le
  obtain ⟨target, htarget⟩ := Option.isSome_iff_exists.1 (hlinks l hl)
  have hget := linkAt?_eq_some_iff.1 htarget
  have hnil : l ≠ [] := ne_nil_of_get? (t := t) (by simp [hget])
  simp only [get?, hnil, if_false, List.lookup_eq_some_iff] at hget
  obtain ⟨front, back, hentries, -⟩ := hget
  exact List.mem_map.2 ⟨(l, .link target), by simp [hentries], rfl⟩

/-- Names that lead somewhere are followed to the end, whatever links are being followed, as long as
none of them can be met again. -/
lemma follow_of_leads (h : t.Leads here names l i) (hcost : t.CostAtLeast visiting i)
    (hnodup : visiting.Nodup) (hlinks : ∀ l ∈ visiting, (t.linkAt? l).isSome = true)
    (hdepth : t.countLinks ≤ depth + visiting.length) :
    t.follow depth visiting here names = ⟨l, []⟩ := by
  induction h generalizing visiting depth with
  | nil => exact follow_nil
  | stay hn _ ih => rw [follow_stay hn, ih hcost hnodup hlinks hdepth]
  | up _ ih => rw [follow_up, ih hcost hnodup hlinks hdepth]
  | enter hn hl _ ih => rw [follow_enter hn hl, ih hcost hnodup hlinks hdepth]
  | @link here m l n target rest i j hn hl hm h ih ih' =>
    have hback : (here ++ [n]).dropLast = here := List.dropLast_concat
    -- a link that is met again inside its own target would cost more than itself
    have hv : here ++ [n] ∉ visiting := fun hv => by
      have hij : i + j + 1 ≤ i := hcost _ hv target m i hl (by rwa [hback])
      omega
    have hnodup' : ((here ++ [n]) :: visiting).Nodup := List.nodup_cons.2 ⟨hv, hnodup⟩
    have hlinks' : ∀ l ∈ (here ++ [n]) :: visiting, (t.linkAt? l).isSome = true :=
      List.forall_mem_cons.2 ⟨by simp [hl], hlinks⟩
    have hcost' : t.CostAtLeast ((here ++ [n]) :: visiting) i := by
      refine List.forall_mem_cons.2 ⟨fun target' m' j' hl' hm' => ?_, hcost.mono (by omega)⟩
      obtain rfl : target = target' := Option.some.inj (hl.symm.trans hl')
      rw [hback] at hm'
      exact (hm.unique hm').2.le
    have hlength : visiting.length + 1 ≤ t.countLinks := length_le_countLinks hnodup' hlinks'
    obtain ⟨depth, rfl⟩ : ∃ d, depth = d + 1 := ⟨depth - 1, by omega⟩
    have hdepth' : t.countLinks ≤ depth + ((here ++ [n]) :: visiting).length := by
      rw [List.length_cons]
      omega
    have hinner := ih hcost' hnodup' hlinks' hdepth'
    rw [follow_link hn hl hv, hinner]
    exact (if_pos rfl).trans (ih' (hcost.mono (by omega)) hnodup hlinks hdepth)

/-! ## Walking -/

/-- A location in a directory, where no link is. -/
def Reached (t : FileTree) (l : Location) : Prop :=
  t.get? l.dropLast = some .directory ∧ t.linkAt? l = none

lemma reached_of_directory (hr : t.Rooted) (h : t.get? l = some .directory) : t.Reached l :=
  ⟨hr.parent h, by simp [linkAt?, h]⟩

/-- A walk along names that gets to the end: each name but the last one is looked up in a directory
and found there. Of a directory that may not be entered it can only be said that it is one. -/
inductive Walked (t : FileTree) (making : Bool) : Nat → Location → List String → Location → Prop
  | done (links : Nat) (here : Location) : Walked t making links here [] here
  | stay {links : Nat} {here l : Location} {n : String} {rest : List String}
    (hd : t.get? here = some .directory) (hn : n = "." ∨ n = directoryMark)
    (h : Walked t making links here rest l) : Walked t making links here (n :: rest) l
  | mark {links : Nat} {here l : Location} {rest : List String}
    (hb : t.get? here = some (.barred true)) (h : Walked t making links here rest l) :
    Walked t making links here (directoryMark :: rest) l
  | up {links : Nat} {here l : Location} {rest : List String}
    (hd : t.get? here = some .directory) (h : Walked t making links here.dropLast rest l) :
    Walked t making links here (".." :: rest) l
  | last {links : Nat} {here : Location} {n : String}
    (hd : t.get? here = some .directory) (hn : Proper n) (hlength : ¬ maxName < byteLength n)
    (hget : t.get? (here ++ [n]) = none) : Walked t making links here [n] (here ++ [n])
  | enter {links : Nat} {here l : Location} {n : String} {rest : List String} {e : Entry}
    (hd : t.get? here = some .directory) (hn : Proper n)
    (hmaking : ¬ (making = true ∧ rest = [directoryMark])) (hlength : ¬ maxName < byteLength n)
    (hget : t.get? (here ++ [n]) = some e) (hlink : ∀ target, e ≠ .link target)
    (h : Walked t making links (here ++ [n]) rest l) : Walked t making links here (n :: rest) l
  | link {links : Nat} {here l : Location} {n target : String} {rest : List String}
    (hd : t.get? here = some .directory) (hn : Proper n)
    (hmaking : ¬ (making = true ∧ rest = [directoryMark])) (hlength : ¬ maxName < byteLength n)
    (hget : t.get? (here ++ [n]) = some (.link target))
    (h : Walked t making links (targetStart here target) (targetNames target ++ rest) l) :
    Walked t making (links + 1) here (n :: rest) l

lemma walked_of_walk (h : t.walk making links here names = .ok l) :
    t.Walked making links here names l := by
  fun_induction t.walk making links here names with
  | case1 links here =>
    obtain rfl := Except.ok.inj h
    exact .done links here
  | case6 links here rest hb ih => exact .mark hb (ih h)
  | case8 links here n rest hd hn ih => exact .stay hd hn (ih h)
  | case9 links here rest hd hn ih => exact .up hd (ih h)
  | case12 links here n hd hn hup hlength hget =>
    obtain rfl := Except.ok.inj h
    exact .last hd ⟨hn, hup⟩ hlength hget
  | case15 here n rest hd hn hup hmaking hlength target hget links ih =>
    exact .link hd ⟨hn, hup⟩ hmaking hlength hget (ih h)
  | case16 links here n rest hd hn hup hmaking hlength e hlink hget ih =>
    exact .enter hd ⟨hn, hup⟩ hmaking hlength hget hlink (ih h)
  | _ => exact absurd h (by simp)

lemma walk_of_walked (h : t.Walked making links here names l) :
    t.walk making links here names = .ok l := by
  induction h with
  | done => rw [walk]
  | stay hd hn _ ih => rw [walk, hd]; exact (if_pos hn).trans ih
  | mark hb _ ih => rw [walk, hb]; exact ih
  | up hd _ ih => rw [walk, hd]; exact ih
  | last hd hn hlength hget =>
    rw [walk, hd]
    simp [hn.1, hn.2, hlength, hget]
  | @enter links here l n rest e hd hn hmaking hlength hget hlink _ ih =>
    cases e with
    | link target => exact absurd rfl (hlink target)
    | file | directory | barred => simp only [walk, hd, hn.1, hn.2, hmaking, hlength, hget, if_false, ih]
  | link hd hn hmaking hlength hget _ ih =>
    simp only [walk, hd, hn.1, hn.2, hmaking, hlength, hget, if_false, ih]

lemma walk_eq_ok_iff :
    t.walk making links here names = .ok l ↔ t.Walked making links here names l :=
  ⟨walked_of_walk, walk_of_walked⟩

namespace Walked

lemma exists_leads (h : t.Walked making links here names l) : ∃ i, t.Leads here names l i := by
  induction h with
  | done links here => exact ⟨0, .nil here⟩
  | stay _ hn _ ih => exact ih.imp fun _ => .stay hn
  | mark _ _ ih => exact ih.imp fun _ => .stay (.inr rfl)
  | up _ _ ih => exact ih.imp fun _ => .up
  | last _ hn _ hget => exact ⟨0, .enter hn (by simp [linkAt?, hget]) (.nil _)⟩
  | enter _ hn _ _ hget hlink _ ih =>
    have hnone : t.linkAt? _ = none := linkAt?_eq_none_iff.2 fun target ht =>
      hlink target (Option.some.inj (hget.symm.trans ht))
    exact ih.imp fun _ => .enter hn hnone
  | link _ hn _ _ hget _ ih =>
    obtain ⟨i, hi⟩ := ih
    obtain ⟨m, j, k, hm, hl, -⟩ := hi.exists_append
    exact ⟨_, .link hn (linkAt?_eq_some_iff.2 hget) hm hl⟩

/-- What a walk finds as an entry is made, it finds as well as the entry is looked at. -/
lemma looking (h : t.Walked making links here names l) : t.Walked false links here names l := by
  induction h with
  | done links here => exact .done links here
  | stay hd hn _ ih => exact .stay hd hn ih
  | mark hb _ ih => exact .mark hb ih
  | up hd _ ih => exact .up hd ih
  | last hd hn hlength hget => exact .last hd hn hlength hget
  | enter hd hn _ hlength hget hlink _ ih => exact .enter hd hn (by simp) hlength hget hlink ih
  | link hd hn _ hlength hget _ ih => exact .link hd hn (by simp) hlength hget ih

/-- A walk gets to the same end in a tree that has grown. -/
lemma grows (hg : Grows w t t') (h : t.Walked making links here names l) :
    t'.Walked making links here names l := by
  induction h with
  | done links here => exact .done links here
  | stay hd hn _ ih => exact .stay ((hg.entry _).directory hd) hn ih
  | mark hb _ ih => exact .mark ((hg.entry _).barred hb) ih
  | up hd _ ih => exact .up ((hg.entry _).directory hd) ih
  | @last links here n hd hn hlength hget =>
    have hd' := (hg.entry here).directory hd
    cases hget' : t'.get? (here ++ [n]) with
    | none => exact .last hd' hn hlength hget'
    | some e =>
      -- what has come there in the meantime is no link
      have hlink : ∀ target, e ≠ .link target := by
        rintro target rfl
        simpa [hget] using (hg.entry _).link_iff.1 hget'
      exact .enter hd' hn (by simp) hlength hget' hlink (.done links _)
  | @enter links here l n rest e hd hn hmaking hlength hget hlink _ ih =>
    have hentry := hg.entry (here ++ [n])
    rw [hget] at hentry
    have hd' := (hg.entry here).directory hd
    generalize hget' : t'.get? (here ++ [n]) = e' at hentry
    cases hentry with
    | same => exact .enter hd' hn hmaking hlength hget' hlink ih
    | changed => exact .enter hd' hn hmaking hlength hget' (by simp) ih
  | link hd hn hmaking hlength hget _ ih =>
    exact .link ((hg.entry _).directory hd) hn hmaking hlength ((hg.entry _).link_iff.2 hget) ih

/-- A walk gets to locations in directories only, and to no link. -/
lemma reached (h : t.Walked making links here names l) (hr : t.Rooted) (hhere : t.Reached here) :
    t.Reached l := by
  induction h with
  | done => exact hhere
  | stay _ _ _ ih => exact ih hhere
  | mark _ _ ih => exact ih hhere
  | up hd _ ih => exact ih (reached_of_directory hr (hr.parent hd))
  | last hd _ _ hget => exact ⟨by rwa [List.dropLast_concat], by simp [linkAt?, hget]⟩
  | enter hd _ _ _ hget hlink _ ih =>
    refine ih ⟨by rwa [List.dropLast_concat], linkAt?_eq_none_iff.2 fun target ht => ?_⟩
    exact hlink target (Option.some.inj (hget.symm.trans ht))
  | @link links here l n target rest hd hn hmaking hlength hget _ ih =>
    refine ih ?_
    rw [targetStart]
    split
    · exact reached_of_directory hr get?_nil
    · exact reached_of_directory hr hd

end Walked

/-! ## Paths -/

lemma locate_eq_ok_iff {cwd : Location} {p : Path} : t.locate cwd making p = .ok l ↔
    ¬ maxPath ≤ byteLength p.toString ∧ t.Walked making maxLinks (start cwd p) p.names l := by
  rw [locate]
  split
  · simp_all
  · rw [walk_eq_ok_iff]
    simp_all

section Paths

variable {cwd : Location} {p : Path}

/-- Where the system gets along a path, the path is resolved to the same location. -/
lemma resolveLocation_of_locate (h : t.locate cwd making p = .ok l) :
    t.resolveLocation cwd p = l := by
  obtain ⟨i, hi⟩ := (locate_eq_ok_iff.1 h).2.exists_leads
  have hfollow : t.follow t.countLinks [] (start cwd p) p.names = ⟨l, []⟩ :=
    follow_of_leads hi (by simp [CostAtLeast]) List.nodup_nil (by simp) (by simp)
  simp [resolveLocation, hfollow, flatten]

lemma locate_looking (h : t.locate cwd making p = .ok l) : t.locate cwd false p = .ok l := by
  rw [locate_eq_ok_iff] at h ⊢
  exact h.imp_right Walked.looking

lemma Grows.locate (hg : Grows w t t') (h : t.locate cwd making p = .ok l) :
    t'.locate cwd making p = .ok l := by
  rw [locate_eq_ok_iff] at h ⊢
  exact h.imp_right (Walked.grows hg)

lemma reached_of_locate (hr : t.Rooted) (hcwd : t.get? cwd = some .directory)
    (h : t.locate cwd making p = .ok l) : t.Reached l := by
  refine (locate_eq_ok_iff.1 h).2.reached hr (reached_of_directory hr ?_)
  rw [start]
  split
  · exact get?_nil
  · exact hcwd

/-- A path leads to a file if the system gets along it and the file is where it is resolved to. -/
lemma look_eq_file_iff {content : Bytes} : t.look cwd p = .ok (.file content) ↔
    t.locate cwd false p = .ok (t.resolveLocation cwd p) ∧
      t.fileAt? (t.resolveLocation cwd p) = some content := by
  rw [look]
  cases hlocate : t.locate cwd false p with
  | error o => simp [Except.bind]
  | ok l =>
    rw [resolveLocation_of_locate hlocate, fileAt?_eq_some_iff]
    cases h : t.get? l <;> simp [Except.bind, h]

end Paths

end FileTree

end Wikidown
