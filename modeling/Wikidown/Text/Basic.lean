/-!
# Texts

A text is the list of its characters. This module holds the three cuts that all markup is read
with: dropping a marker from the front (`after?`), cutting at the nearest marker (`cut?`) and
cutting at every marker (`splitAt`); and the line breaks of a text. The main statements say that
no character is lost: `after?_eq_some_iff` and `cut?_eq_some`.
-/

namespace Wikidown

/-- A text is its characters in order. -/
abbrev Text := List Char

namespace Text

/-- What follows `marker` at the front of a text. -/
def after? : (marker : Text) → Text → Option Text
  | [], s => some s
  | _ :: _, [] => none
  | m :: ms, c :: s => if m = c then after? ms s else none

theorem after?_eq_some_iff {m s r : Text} : after? m s = some r ↔ s = m ++ r := by
  induction m generalizing s with
  | nil => simp [after?, eq_comm]
  | cons a m ih =>
    cases s with
    | nil => simp [after?]
    | cons c s =>
      by_cases h : a = c
      · simp [after?, h, ih]
      · simp [after?, h, Ne.symm h]

@[simp] theorem after?_append (m r : Text) : after? m (m ++ r) = some r :=
  after?_eq_some_iff.2 rfl

/-- The text before the nearest `marker`, and the text after it. -/
def cut? (marker : Text) : Text → Option (Text × Text)
  | [] => if marker = [] then some ([], []) else none
  | c :: s =>
    match after? marker (c :: s) with
    | some r => some ([], r)
    | none => (cut? marker s).map fun p => (c :: p.1, p.2)

theorem cut?_eq_some {m s a r : Text} (h : cut? m s = some (a, r)) : s = a ++ m ++ r := by
  induction s generalizing a with
  | nil =>
    simp only [cut?] at h
    split at h <;> simp_all
  | cons c s ih =>
    simp only [cut?] at h
    split at h
    · next r' h' =>
      simp only [Option.some.injEq, Prod.mk.injEq] at h
      obtain ⟨rfl, rfl⟩ := h
      simpa using after?_eq_some_iff.1 h'
    · obtain ⟨p, hp, e⟩ := Option.map_eq_some_iff.1 h
      simp only [Prod.mk.injEq] at e
      obtain ⟨rfl, rfl⟩ := e
      simp [← ih hp]

theorem length_lt_of_cut? {m s a r : Text} (hm : m ≠ []) (h : cut? m s = some (a, r)) :
    r.length < s.length := by
  have := List.length_pos_iff.2 hm
  simp only [cut?_eq_some h, List.length_append]
  omega

/-- The pieces of a text between the occurrences of `marker`, taken from left to right. -/
def splitAt (marker : Text) (s : Text) : List Text :=
  if hm : marker = [] then [s] else
  match h : cut? marker s with
  | none => [s]
  | some (a, r) =>
    have := length_lt_of_cut? hm h
    a :: splitAt marker r
termination_by s.length

theorem splitAt_of_cut?_eq_none {m s : Text} (h : cut? m s = none) : splitAt m s = [s] := by
  rw [splitAt]
  split
  · rfl
  · split
    · rfl
    · next hcut =>
      rw [h] at hcut
      cases hcut

theorem splitAt_of_cut?_eq_some {m s a r : Text} (hm : m ≠ []) (h : cut? m s = some (a, r)) :
    splitAt m s = a :: splitAt m r := by
  rw [splitAt, dif_neg hm]
  split
  · next hcut =>
    rw [h] at hcut
    cases hcut
  · next hcut =>
    rw [h] at hcut
    cases hcut
    rfl

/-- Writes each break of a carriage return and a line feed as a line feed. -/
def unifyBreaks : Text → Text
  | [] => []
  | '\r' :: '\n' :: s => '\n' :: unifyBreaks s
  | c :: s => c :: unifyBreaks s

/-- The lines of a text: a line ends at a line feed, with or without a carriage return. -/
def lines (s : Text) : List Text :=
  (unifyBreaks s).splitOn '\n'

/-- The text of some lines, with a line feed between two. -/
def unlines (ls : List Text) : Text :=
  ['\n'].intercalate ls

end Text

end Wikidown
