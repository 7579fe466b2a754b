import Wikidown.Text.Basic

/-!
# Texts that may hold lone surrogates

What is decoded from bytes is a sequence of code points. Some encodings can spell a surrogate that is
no half of a pair; it stands in the text like any other character, and only where the text is to leave
the program it is found that UTF-8 has no bytes for it (`scalars`). Markup is rewritten around lone
surrogates as around any character that means nothing in it (`rewrite`). Main statements:
`scalars_eq_ok_iff` and `rewrite_ofText`.
-/

namespace Wikidown

/-- A code point: a character, or a lone surrogate, counted from `D800`. -/
inductive CodePoint
  | char (c : Char)
  | lone (n : Fin 2048)
deriving DecidableEq, Repr

namespace CodePoint

/-- The number of the first surrogate. -/
def firstSurrogate : Nat :=
  0xD800

/-- The code point of a number in the range of Unicode. -/
def ofNat (n : Nat) : CodePoint :=
  if h : n - firstSurrogate < 2048 ∧ firstSurrogate ≤ n then .lone ⟨n - firstSurrogate, h.1⟩
  else .char (Char.ofNat n)

/-- The number of a code point. -/
def toNat : CodePoint → Nat
  | char c => c.toNat
  | lone n => firstSurrogate + n

/-- Whether a code point is a lone surrogate. -/
def isLone : CodePoint → Bool
  | char _ => false
  | lone _ => true

/-- The lone surrogate that a code point is. -/
def lone? : CodePoint → Option (Fin 2048)
  | char _ => none
  | lone n => some n

end CodePoint

/-- A text that may hold lone surrogates. -/
abbrev CodeText := List CodePoint

/-- The first run of lone surrogates in a text: the surrogate that it begins with, and the place of the
run, its end excluded. -/
structure LoneRun where
  first : Fin 2048
  start : Nat
  stop : Nat
deriving DecidableEq, Repr

namespace CodeText

/-- A text as code points. -/
def ofText (s : Text) : CodeText :=
  s.map .char

/-- The characters of a text, or else the first run of lone surrogates; `pos` is the place of the
first code point. -/
def scalarsFrom (pos : Nat) : CodeText → Except LoneRun Text
  | [] => .ok []
  | .char c :: s => (scalarsFrom (pos + 1) s).map (c :: ·)
  | .lone n :: s => .error ⟨n, pos, pos + 1 + (s.takeWhile CodePoint.isLone).length⟩

/-- The characters of a text, or else the first run of lone surrogates. -/
def scalars (s : CodeText) : Except LoneRun Text :=
  scalarsFrom 0 s

/-- The lone surrogates of a text, each once. -/
def lones (s : CodeText) : List (Fin 2048) :=
  (s.filterMap CodePoint.lone?).eraseDups

/-- A character that stands for a surrogate and means nothing in markup. -/
def standIn : Char :=
  '\uFFFD'

/-- Another such character. -/
def otherStandIn : Char :=
  '\uFFFC'

/-- A text where a character stands for each lone surrogate. -/
def fill (mark : Fin 2048 → Char) (s : CodeText) : Text :=
  s.map fun
    | .char c => c
    | .lone n => mark n

/-- Puts a lone surrogate in wherever two texts differ. -/
def restore (n : Fin 2048) (plain probe : Text) (s : CodeText) : CodeText :=
  List.zipWith (fun same p => if same then p else .lone n) (List.zipWith (· == ·) plain probe) s

/-- Rewrites a text, where the rewriting of characters is known. Such a rewriting moves a character that
means nothing in markup without looking at it: where the results for two stand-ins of a surrogate
differ, there the surrogate has gone. -/
def rewrite (f : Text → Text) (s : CodeText) : CodeText :=
  let plain := f (s.fill fun _ => standIn)
  s.lones.foldl (fun t n =>
    restore n plain (f (s.fill fun m => if m = n then otherStandIn else standIn)) t) (ofText plain)

@[simp] theorem length_ofText (s : Text) : (ofText s).length = s.length :=
  List.length_map _

theorem scalarsFrom_ofText (pos : Nat) (s : Text) : scalarsFrom pos (ofText s) = .ok s := by
  induction s generalizing pos with
  | nil => rfl
  | cons c s ih =>
    have := ih (pos + 1)
    simp only [ofText, List.map_cons, scalarsFrom] at this ⊢
    rw [this]
    rfl

@[simp] theorem scalars_ofText (s : Text) : (ofText s).scalars = .ok s :=
  scalarsFrom_ofText 0 s

theorem eq_ofText_of_scalarsFrom {pos : Nat} {s : CodeText} {t : Text}
    (h : scalarsFrom pos s = .ok t) : s = ofText t := by
  induction s generalizing pos t with
  | nil =>
    cases h
    rfl
  | cons p s ih =>
    cases p with
    | char c =>
      rw [scalarsFrom] at h
      cases hs : scalarsFrom (pos + 1) s with
      | error e =>
        rw [hs] at h
        cases h
      | ok r =>
        rw [hs] at h
        cases h
        rw [ih hs]
        rfl
    | lone n => cases h

/-- A text that has characters throughout is the one of its characters. -/
theorem scalars_eq_ok_iff {s : CodeText} {t : Text} : s.scalars = .ok t ↔ s = ofText t :=
  ⟨eq_ofText_of_scalarsFrom, fun h => h ▸ scalars_ofText t⟩

theorem ofText_inj {s t : Text} : ofText s = ofText t ↔ s = t := by
  refine ⟨fun h => ?_, congrArg ofText⟩
  have := scalars_ofText s
  rw [h, scalars_ofText] at this
  exact (Except.ok.inj this).symm

@[simp] theorem lones_ofText (s : Text) : (ofText s).lones = [] := by
  have h : (ofText s).filterMap CodePoint.lone? = [] := by
    simp [ofText, List.filterMap_eq_nil_iff, CodePoint.lone?]
  rw [lones, h, List.eraseDups_nil]

@[simp] theorem fill_ofText (mark : Fin 2048 → Char) (s : Text) : (ofText s).fill mark = s := by
  simp [fill, ofText, Function.comp_def]

/-- Rewriting a text of characters is rewriting its characters. -/
@[simp] theorem rewrite_ofText (f : Text → Text) (s : Text) :
    rewrite f (ofText s) = ofText (f s) := by
  simp [rewrite]

end CodeText

end Wikidown
