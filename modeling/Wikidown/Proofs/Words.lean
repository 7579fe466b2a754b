import Mathlib.Data.List.Infix
import Wikidown.Proofs.Reading

/-!
# Words in a text

`Text.found ws s` lists the words of `ws` that stand in the text `s`, place by place. What is found
in two texts side by side is what is found in each of them, as long as no word lies across the seam
(`found_append`). That is so if no word goes on with what follows the seam (`stops`), or if no word
is left open in front of it (`Closes`). `Leads x ws s` says that each `x` of the text begins one of
the words; such a text leaves no word open (`Leads.closes`). `Avoids W s r` says that no word of `W`
begins in `s`, in front of the text `r`.
-/

namespace Wikidown

namespace Text

/-- The words that stand in a text, place by place from left to right. -/
def found (ws : List Text) : Text → List Text
  | [] => []
  | c :: s => (ws.filter fun w => w <+: c :: s) ++ found ws s

/-- No word lies across the seam between the two texts. -/
def Parted (ws : List Text) (a b : Text) : Prop :=
  ∀ v, v <:+ a → v ≠ [] → ∀ w ∈ ws, ∀ q, w = v ++ q → q <+: b → q = []

/-- No word that begins in the text goes on behind it, whatever follows. -/
def Closes (ws : List Text) (a : Text) : Prop :=
  ∀ v, v <:+ a → v ≠ [] → ∀ w ∈ ws, v <+: w → v = w

/-- Whether no word goes on with the first character of the text. -/
def stops (ws : List Text) (b : Text) : Bool :=
  b.head?.any fun c => ws.all fun w => !w.tail.contains c

/-- Whether the text holds no character with which a word begins. -/
def silent (ws : List Text) (b : Text) : Bool :=
  ws.all fun w => w.head?.any fun x => !b.contains x

/-- Whether the text takes no part in any word, wherever it stands. -/
def foreign (ws : List Text) (b : Text) : Bool :=
  stops ws b && silent ws b

variable {ws : List Text} {a b s u v w : Text} {x : Char}

/-! ## Seams -/

lemma prefix_append_iff (h : ∀ q, w = a ++ q → q <+: b → q = []) : w <+: a ++ b ↔ w <+: a := by
  constructor
  · intro hw
    rcases List.prefix_or_prefix_of_prefix hw (List.prefix_append a b) with hwa | ⟨q, rfl⟩
    · exact hwa
    · rw [h q rfl ((List.prefix_append_right_inj a).1 hw), List.append_nil]
  · exact fun hw => hw.trans (List.prefix_append a b)

lemma found_append (h : Parted ws a b) : found ws (a ++ b) = found ws a ++ found ws b := by
  -- at each place of the first text the same words begin with the second one and without it
  induction a with
  | nil => rfl
  | cons c a ih =>
    have hrest : found ws (a ++ b) = found ws a ++ found ws b :=
      ih fun v hv => h v (hv.trans (List.suffix_cons c a))
    have hhere : (ws.filter fun w => w <+: c :: a ++ b) = ws.filter fun w => w <+: c :: a := by
      apply List.filter_congr
      intro w hw
      have hc := prefix_append_iff (h (c :: a) (List.suffix_refl _) (List.cons_ne_nil c a) w hw)
      simp only [hc]
    rw [List.cons_append, found, hrest, ← List.cons_append, hhere, found, List.append_assoc]

/-- What is found in the parts is found in the whole. -/
lemma found_append_sublist (ws : List Text) (a b : Text) :
    (found ws a ++ found ws b).Sublist (found ws (a ++ b)) := by
  induction a with
  | nil => exact List.Sublist.refl _
  | cons c a ih =>
    have hhere : (ws.filter fun w => w <+: c :: a).Sublist (ws.filter fun w => w <+: c :: a ++ b) :=
      List.monotone_filter_right ws fun w hw => by
        simpa using (of_decide_eq_true hw).trans (List.prefix_append (c :: a) b)
    rw [List.cons_append, found, found, List.append_assoc]
    exact hhere.append ih

/-- Where no word is found, none is found in a part. -/
lemma found_eq_nil_of_isInfix (h : found ws s = []) (ha : a <:+: s) : found ws a = [] := by
  obtain ⟨u, v, rfl⟩ := ha
  have hfront : (found ws u ++ found ws a).Sublist (found ws (u ++ a ++ v)) :=
    (found_append_sublist ws u a).trans <|
      (List.sublist_append_left _ _).trans (found_append_sublist ws (u ++ a) v)
  rw [h, List.sublist_nil] at hfront
  exact (List.append_eq_nil_iff.1 hfront).2

lemma Closes.parted (h : Closes ws a) : Parted ws a b := by
  intro v hv hne w hw q hq _
  have hvw : v = w := h v hv hne w hw ⟨q, hq.symm⟩
  rw [hvw] at hq
  exact List.self_eq_append_right.1 hq

/-- Nothing lies across the seam in front of a text that is empty or goes on with no word. -/
lemma parted_of_head? (h : ∀ c, b.head? = some c → ∀ w ∈ ws, c ∉ w.tail) : Parted ws a b := by
  intro v _ hv w hw q hq hqb
  cases q with
  | nil => rfl
  | cons c q =>
    obtain ⟨t, rfl⟩ := hqb
    have hc : c ∉ w.tail := h c rfl w hw
    rw [hq, List.tail_append_of_ne_nil hv] at hc
    exact absurd (List.mem_append_right _ List.mem_cons_self) hc

/-- Nothing lies across the seam in front of a text that no word goes on with. -/
lemma parted_of_stops (h : stops ws b = true) : Parted ws a (b ++ s) := by
  obtain ⟨c, t, rfl, hc⟩ := exists_cons_of_any_head? h
  refine parted_of_head? fun d hd w hw => ?_
  obtain rfl : c = d := Option.some.inj hd
  simpa using List.all_eq_true.1 hc w hw

lemma silent_iff : silent ws b = true ↔ ∀ w ∈ ws, ∃ x t, w = x :: t ∧ x ∉ b := by
  rw [silent, List.all_eq_true]
  refine forall₂_congr fun w _ => ?_
  cases w <;> simp

lemma closes_of_silent (h : silent ws b = true) : Closes ws b := by
  intro v hv hne w hw hvw
  obtain ⟨x, t, rfl, hx⟩ := silent_iff.1 h w hw
  obtain ⟨y, v, rfl⟩ := List.exists_cons_of_ne_nil hne
  obtain ⟨rfl, -⟩ := List.cons_prefix_cons.1 hvw
  exact absurd (hv.subset List.mem_cons_self) hx

lemma found_of_silent (h : silent ws b = true) : found ws b = [] := by
  induction b with
  | nil => rfl
  | cons c b ih =>
    have hb : silent ws b = true :=
      silent_iff.2 fun w hw => by
        obtain ⟨x, t, rfl, hx⟩ := silent_iff.1 h w hw
        exact ⟨x, t, rfl, fun hb => hx (List.mem_cons_of_mem c hb)⟩
    rw [found, ih hb, List.append_nil, List.filter_eq_nil_iff]
    intro w hw
    obtain ⟨x, t, rfl, hx⟩ := silent_iff.1 h w hw
    have hxc : x ≠ c := fun e => hx (e ▸ List.mem_cons_self)
    simp [hxc]

/-- Behind a text in which no word begins, what is found is what is found without it. -/
lemma found_append_of_silent (h : silent ws b = true) : found ws (b ++ s) = found ws s := by
  rw [found_append (closes_of_silent h).parted, found_of_silent h, List.nil_append]

lemma found_append_of_stops (h : stops ws b = true) :
    found ws (a ++ (b ++ s)) = found ws a ++ found ws (b ++ s) :=
  found_append (parted_of_stops h)

lemma foreign_iff : foreign ws b = true ↔ stops ws b = true ∧ silent ws b = true := by
  rw [foreign, Bool.and_eq_true]

/-- A text that takes no part in any word parts what stands on its sides. -/
lemma found_append_of_foreign (h : foreign ws b = true) :
    found ws (a ++ (b ++ s)) = found ws a ++ found ws s := by
  obtain ⟨hstops, hsilent⟩ := foreign_iff.1 h
  rw [found_append_of_stops hstops, found_append_of_silent hsilent]

lemma found_append_foreign (h : foreign ws b = true) : found ws (a ++ b) = found ws a := by
  simpa [found] using found_append_of_foreign (a := a) (s := []) h

/-- A text that shares no character with the words takes no part in them. -/
lemma foreign_of_apart (hb : b ≠ []) (hws : [] ∉ ws) (h : ∀ w ∈ ws, ∀ x ∈ w, x ∉ b) :
    foreign ws b = true := by
  refine foreign_iff.2 ⟨?_, silent_iff.2 fun w hw => ?_⟩
  · obtain ⟨c, t, rfl⟩ := List.exists_cons_of_ne_nil hb
    simp only [stops, List.head?_cons, Option.any_some, List.all_eq_true]
    intro w hw
    have hc : c ∉ w.tail := fun hc => h w hw c (List.mem_of_mem_tail hc) List.mem_cons_self
    simpa using hc
  · obtain ⟨x, t, rfl⟩ := List.exists_cons_of_ne_nil (ne_of_mem_of_not_mem hw hws)
    exact ⟨x, t, rfl, h _ hw x List.mem_cons_self⟩

lemma mem_found_of_prefix (hw : w ∈ ws) (hne : w ≠ []) (h : w <+: s) : w ∈ found ws s := by
  obtain ⟨c, t, rfl⟩ := List.exists_cons_of_ne_nil hne
  obtain ⟨r, rfl⟩ := h
  exact List.mem_append_left _ (List.mem_filter.2 ⟨hw, by simp⟩)

/-- A word is found exactly if it stands somewhere in the text. -/
lemma mem_found_iff (hw : w ∈ ws) (hne : w ≠ []) : w ∈ found ws s ↔ w <:+: s := by
  constructor
  · intro h
    induction s with
    | nil => cases h
    | cons c s ih =>
      rcases List.mem_append.1 h with h | h
      · exact (of_decide_eq_true (List.mem_filter.1 h).2).isInfix
      · exact (ih h).trans (List.suffix_cons c s).isInfix
  · rintro ⟨a, b, rfl⟩
    have hmem : w ∈ found ws (w ++ b) := mem_found_of_prefix hw hne (List.prefix_append w b)
    rw [List.append_assoc]
    exact (found_append_sublist ws a (w ++ b)).subset (List.mem_append_right _ hmem)

lemma found_singleton_eq_nil_iff (hne : w ≠ []) : found [w] s = [] ↔ ¬ w <:+: s := by
  rw [← mem_found_iff List.mem_cons_self hne, List.eq_nil_iff_forall_not_mem]
  constructor
  · exact fun h => h w
  · intro h v hv
    have hvw : v ∈ [w] := by
      induction s with
      | nil => cases hv
      | cons c s ih =>
        rcases List.mem_append.1 hv with hv | hv
        · exact (List.mem_filter.1 hv).1
        · exact ih (fun hs => h (List.mem_append_right _ hs)) hv
    exact h (List.mem_singleton.1 hvw ▸ hv)

/-! ## Some of the words -/

variable {ws' : List Text}

lemma Closes.subset (h : Closes ws a) (hws : ws' ⊆ ws) : Closes ws' a :=
  fun v hv hne w hw => h v hv hne w (hws hw)

lemma stops_subset (h : stops ws b = true) (hws : ws' ⊆ ws) : stops ws' b = true := by
  obtain ⟨c, t, rfl, hc⟩ := exists_cons_of_any_head? h
  simp only [stops, List.head?_cons, Option.any_some, List.all_eq_true] at hc ⊢
  exact fun w hw => hc w (hws hw)

lemma silent_subset (h : silent ws b = true) (hws : ws' ⊆ ws) : silent ws' b = true :=
  silent_iff.2 fun w hw => silent_iff.1 h w (hws hw)

lemma foreign_subset (h : foreign ws b = true) (hws : ws' ⊆ ws) : foreign ws' b = true :=
  foreign_iff.2 ⟨stops_subset (foreign_iff.1 h).1 hws, silent_subset (foreign_iff.1 h).2 hws⟩

/-! ## Characters that begin words -/

/-- Each `x` of the text begins one of the words. -/
def Leads (x : Char) (ws : List Text) (s : Text) : Prop :=
  ∀ t, x :: t <:+ s → ∃ w ∈ ws, w <+: x :: t

instance (x : Char) (ws : List Text) (s : Text) : Decidable (Leads x ws s) :=
  decidable_of_iff (∀ t ∈ s.tails, t.head? = some x → ∃ w ∈ ws, w <+: t) <| by
    constructor
    · exact fun h t ht => h (x :: t) ((List.mem_tails _ _).2 ht) rfl
    · intro h t ht hx
      obtain ⟨t, rfl⟩ := List.head?_eq_some_iff.1 hx
      exact h t ((List.mem_tails _ _).1 ht)

namespace Leads

lemma of_not_mem (h : x ∉ s) : Leads x ws s :=
  fun _ ht => absurd (ht.subset List.mem_cons_self) h

lemma suffix (h : Leads x ws s) (hs : a <:+ s) : Leads x ws a :=
  fun t ht => h t (ht.trans hs)

lemma append (ha : Leads x ws a) (hb : Leads x ws b) : Leads x ws (a ++ b) := by
  intro t ht
  rcases List.suffix_or_suffix_of_suffix ht (List.suffix_append a b) with hs | ⟨u, hu⟩
  · exact hb t hs
  · -- an `x` of the first text begins a word that ends there
    cases u with
    | nil => exact hb t (hu ▸ List.suffix_refl _)
    | cons y u =>
      obtain ⟨rfl, rfl⟩ : y = x ∧ u ++ b = t := by simpa using hu
      obtain ⟨z, hz⟩ := ht
      have hua : y :: u <:+ a := ⟨z, List.append_cancel_right (by simpa using hz)⟩
      obtain ⟨w, hw, hwu⟩ := ha u hua
      exact ⟨w, hw, hwu.trans (List.prefix_append (y :: u) b)⟩

/-- In front of a text that no word goes on with, each `x` begins a whole word. -/
lemma left (h : Leads x ws (a ++ (b ++ s))) (hb : stops ws b = true) : Leads x ws a := by
  intro t ht
  have hlong : x :: (t ++ (b ++ s)) <:+ a ++ (b ++ s) := by
    obtain ⟨z, rfl⟩ := ht
    exact ⟨z, by simp⟩
  obtain ⟨w, hw, hwt⟩ := h _ hlong
  have hpart : Parted ws a (b ++ s) := parted_of_stops hb
  exact ⟨w, hw, (prefix_append_iff (hpart _ ht (List.cons_ne_nil x t) w hw)).1 hwt⟩

/-- If no word is the beginning of another, and all begin with `x`, then no word is left open. -/
lemma closes (h : Leads x ws s) (hws : ∀ w ∈ ws, ∀ w' ∈ ws, w <+: w' → w = w')
    (hx : ∀ w ∈ ws, w.head? = some x) : Closes ws s := by
  intro v hv hne w hw hvw
  obtain ⟨y, t, rfl⟩ := List.exists_cons_of_ne_nil hne
  obtain ⟨t', rfl⟩ := List.head?_eq_some_iff.1 (hx w hw)
  obtain ⟨rfl, -⟩ := List.cons_prefix_cons.1 hvw
  -- the word that stands at this place is the one that might go on
  obtain ⟨w', hw', hwv⟩ := h t hv
  have he := hws w' hw' _ hw (hwv.trans hvw)
  exact hvw.eq_of_length (Nat.le_antisymm hvw.length_le (he ▸ hwv.length_le))

end Leads

/-! ## Words that begin nowhere in a text -/

/-- None of the words begins in the text `s`, where `r` follows. -/
def Avoids (W : Text → Prop) (s r : Text) : Prop :=
  ∀ v, v <:+ s → v ≠ [] → ∀ w, W w → ¬ w <+: v ++ r

namespace Avoids

variable {W : Text → Prop} {r t : Text}

lemma nil : Avoids W [] r :=
  fun _ hv hne => absurd (List.suffix_nil.1 hv) hne

lemma append (hs : Avoids W s (t ++ r)) (ht : Avoids W t r) : Avoids W (s ++ t) r := by
  intro v hv hne w hw
  rcases List.suffix_or_suffix_of_suffix hv (List.suffix_append s t) with hvt | ⟨u, rfl⟩
  · exact ht v hvt hne w hw
  · by_cases hu : u = []
    · subst hu
      exact ht t (List.suffix_refl t) hne w hw
    · obtain ⟨z, hz⟩ := hv
      have hus : u <:+ s := ⟨z, List.append_cancel_right (by simpa using hz)⟩
      rw [List.append_assoc]
      exact hs u hus hu w hw

/-- No word begins in a text without the beginning of all words, if what follows does not go on with
it. -/
lemma of_not_isInfix (hW : ∀ w, W w → u <+: w) (hs : ¬ u <:+: s)
    (hr : ∀ c, r.head? = some c → c ∉ u.tail) : Avoids W s r := by
  intro v hv hne w hw hpre
  have hpart : Parted [u] s r := parted_of_head? fun c hc => by simpa using hr c hc
  have hu : u <+: v ++ r := (hW w hw).trans hpre
  rw [prefix_append_iff (hpart v hv hne u List.mem_cons_self)] at hu
  exact hs (hu.isInfix.trans hv.isInfix)

lemma mono {W' : Text → Prop} (h : Avoids W s r) (hW : ∀ w, W' w → W w) : Avoids W' s r :=
  fun v hv hne w hw => h v hv hne w (hW w hw)

lemma not_isInfix (h : Avoids W s r) (hw : W w) (hne : w ≠ []) : ¬ w <:+: s := by
  rintro ⟨u, v, rfl⟩
  refine h (w ++ v) ⟨u, (List.append_assoc u w v).symm⟩ (by simp [hne]) w hw ?_
  rw [List.append_assoc]
  exact List.prefix_append w _

end Avoids

/-! ## Cutting at a word -/

/-- A text without a marker is cut at the marker that follows it, if the first character of the
marker does not come again in it. -/
lemma cut?_append_of_not_isInfix {c : Char} {m r : Text} (hc : c ∉ m) (h : ¬ c :: m <:+: a) :
    cut? (c :: m) (a ++ (c :: m ++ r)) = some (a, r) := by
  have hstops : stops [c :: m] (c :: m) = true := by simp [stops, hc]
  induction a with
  | nil =>
    have hafter : after? (c :: m) (c :: (m ++ r)) = some r := after?_append (c :: m) r
    simp [cut?, hafter]
  | cons d a ih =>
    have hnone : after? (c :: m) (d :: (a ++ (c :: m ++ r))) = none := by
      cases hafter : after? (c :: m) (d :: (a ++ (c :: m ++ r))) with
      | none => rfl
      | some t =>
        have hpre : c :: m <+: d :: a ++ (c :: m ++ r) := ⟨t, (after?_eq_some_iff.1 hafter).symm⟩
        have hpart : Parted [c :: m] (d :: a) (c :: m ++ r) := parted_of_stops hstops
        have hin := (prefix_append_iff (hpart _ (List.suffix_refl _) (List.cons_ne_nil d a) _
          List.mem_cons_self)).1 hpre
        exact absurd hin.isInfix h
    have hrest := ih fun hin => h (hin.trans (List.suffix_cons d a).isInfix)
    rw [List.cons_append, cut?, hnone]
    simp only [hrest, Option.map_some]

/-- In front of the marker at which a text is cut there is none. -/
lemma not_isInfix_of_cut? {m r : Text} (hm : m ≠ []) (h : cut? m s = some (a, r)) : ¬ m <:+: a := by
  induction s generalizing a with
  | nil => simp [cut?, hm] at h
  | cons c s ih =>
    rw [cut?] at h
    split at h
    · obtain ⟨rfl, -⟩ := Prod.mk.inj (Option.some.inj h)
      exact fun hin => hm (List.infix_nil.1 hin)
    · next hnone =>
      obtain ⟨⟨a', r'⟩, hcut, heq⟩ := Option.map_eq_some_iff.1 h
      obtain ⟨rfl, rfl⟩ := Prod.mk.inj heq
      intro hin
      rcases List.infix_cons_iff.1 hin with hpre | hin
      · obtain ⟨t, ht⟩ := hpre.trans (List.prefix_append (c :: a') (m ++ r'))
        rw [List.cons_append, ← List.append_assoc, ← cut?_eq_some hcut] at ht
        rw [after?_eq_some_iff.2 ht.symm] at hnone
        exact absurd hnone (by simp)
      · exact ih hcut hin

/-- A text is cut at the nearest marker. -/
lemma cut?_eq_some_iff {c : Char} {m r : Text} (hc : c ∉ m) :
    cut? (c :: m) s = some (a, r) ↔ s = a ++ (c :: m ++ r) ∧ ¬ c :: m <:+: a := by
  constructor
  · intro h
    exact ⟨by rw [cut?_eq_some h, List.append_assoc], not_isInfix_of_cut? (List.cons_ne_nil c m) h⟩
  · rintro ⟨rfl, h⟩
    exact cut?_append_of_not_isInfix hc h

end Text

namespace Pattern

variable {α : Type} {pat : Pattern α} {f : α → Text} {x : Char} {ws : List Text} {s : Text}

/-- A text stays as it is if the character with which spans begin stands in it only where it begins
a word that begins no span. -/
lemma OpensWith.replace_eq_self_of_leads (ho : pat.OpensWith [x])
    (hw : ∀ w ∈ ws, ∀ b r, pat.read b (w ++ r) = none) (h : Text.Leads x ws s) :
    pat.replace f s = s := by
  apply replace_eq_self
  intro b t ht
  cases t with
  | nil => exact pat.read_nil b
  | cons y t =>
    by_cases hy : y = x
    · subst hy
      obtain ⟨w, hmem, r, hr⟩ := h t ht
      rw [← hr]
      exact hw w hmem b r
    · exact ho.read_eq_none (by simpa using hy) b t

end Pattern

end Wikidown
