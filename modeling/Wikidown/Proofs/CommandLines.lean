import Mathlib.Tactic.SplitIfs
import Wikidown.Command.Execution
import Wikidown.Proofs.Reading
import Wikidown.Proofs.WrittenPaths

/-!
# Command lines

The command line that converts one source, and the one that executes a batch, are read as what they are
meant to be, whatever the source, the encoding, the output and the file are called
(`readInvocation_convertLine`, `readInvocation_runSpecLine`): a value that stands behind an equals sign
is taken as it is, and so is a word behind the separator.
-/

namespace Wikidown.Command

/-- An option with its value in one argument. -/
def withValue (name value : String) : String :=
  name ++ "=" ++ value

/-- The command line that converts one source. -/
def convertLine (input charset : String) (output : Option Path) (strikethrough : Bool) :
    List String :=
  "convert" :: withValue "--input" input :: withValue "--charset" charset ::
    ((output.map fun p => withValue "--output" p.toString).toList ++
      if strikethrough then ["--strikethrough"] else [])

/-- The command line that executes a batch. -/
def runSpecLine (file : String) : List String :=
  ["run-spec", "--", file]

namespace Grammar

variable {g : Grammar} {name value arg key : String} {c : Choice} {fuel : Nat} {a : Arguments}
variable {args : List String} {rest : List (String × Role)}

/-! ## Options with their values -/

lemma cutAtEquals_withValue (hname : '=' ∉ name.toList) :
    cutAtEquals (withValue name value) = (name, some (true, value)) := by
  have hcut := Text.cut?_append (m := ['=']) (a := name.toList) (r := value.toList) rfl hname
  simp only [List.singleton_append] at hcut
  simp [cutAtEquals, withValue, hcut]

/-- The options of a program whose names hold no equals sign. -/
def Plain (g : Grammar) : Prop :=
  ∀ x ∈ g.names, '=' ∉ x.1.toList

lemma choice?_withValue (hg : g.Plain) : g.choice? (withValue name value) = none := by
  rw [choice?, List.lookup_eq_none_iff]
  intro x hx
  have hne : withValue name value ≠ x.1 := fun h => hg x hx (by simp [← h, withValue])
  simpa using hne

/-- A word does not begin with a dash. -/
lemma classify_eq_plain (h : ¬ ['-'] <+: arg.toList) : g.classify arg = .ok .plain := by
  have hstarts : arg.startsWith "-" = false := by
    rwa [Bool.eq_false_iff, Ne, String.startsWith_string_iff]
  simp [classify, hstarts]

lemma looksLikeOption_of_long (hlong : ['-', '-'] <+: arg.toList) :
    ¬ (!arg.startsWith "-" || decide (arg.length < 2)) = true := by
  have hstarts : arg.startsWith "-" = true := by
    rw [String.startsWith_string_iff]
    exact (List.singleton_prefix_cons_iff.2 rfl).trans hlong
  have hlength : ¬ arg.length < 2 := by
    rw [← String.length_toList]
    exact Nat.not_lt.2 hlong.length_le
  simp [hstarts, hlength]

/-- A long option is found by its name. -/
lemma classify_of_choice? (hlong : ['-', '-'] <+: arg.toList) (hc : g.choice? arg = some c) :
    g.classify arg = .ok (.mention ⟨c, arg, none⟩) := by
  rw [classify, if_neg (looksLikeOption_of_long hlong), hc]

/-- So is one with its value. -/
lemma classify_withValue (hg : g.Plain) (hlong : ['-', '-'] <+: name.toList)
    (hname : '=' ∉ name.toList) (hc : g.choice? name = some c) :
    g.classify (withValue name value) = .ok (.mention ⟨c, name, some (true, value)⟩) := by
  have hwritten : ['-', '-'] <+: (withValue name value).toList := by
    rw [withValue, String.append_assoc, String.toList_append]
    exact hlong.trans (List.prefix_append _ _)
  rw [classify, if_neg (looksLikeOption_of_long hwritten), choice?_withValue hg,
    cutAtEquals_withValue hname]
  simp [hc]

/-- What can be no option is said to be a word or an unknown option. -/
lemma exists_classify_of_mentions (h : g.mentions arg = []) : ∃ role, g.classify arg = .ok role := by
  rw [classify, h]
  split
  · exact ⟨_, rfl⟩
  · split
    · exact ⟨_, rfl⟩
    · dsimp only
      split <;> exact ⟨_, rfl⟩

lemma mentions_withValue (hlong : ['-', '-'] <+: name.toList) (hname : '=' ∉ name.toList)
    (hno : ∀ x ∈ g.names, ¬ name.toList <+: x.1.toList) :
    g.mentions (withValue name value) = [] := by
  obtain ⟨cs, hcs⟩ := hlong
  have hwritten : (withValue name value).toList = '-' :: '-' :: (cs ++ '=' :: value.toList) := by
    simp [withValue, ← hcs]
  rw [mentions, hwritten, cutAtEquals_withValue hname]
  refine List.filterMap_eq_nil_iff.2 fun x hx => ?_
  simpa using hno x hx

/-- The roles of arguments are found one by one, in front of the separator. -/
lemma exists_classifyAll (h : ∀ arg ∈ args, arg ≠ "--" ∧ g.mentions arg = []) :
    ∃ xs, g.classifyAll args = .ok xs ∧ xs.map (·.1) = args := by
  induction args with
  | nil => exact ⟨[], rfl, rfl⟩
  | cons arg args ih =>
    obtain ⟨⟨hne, hmentions⟩, hrest⟩ := List.forall_mem_cons.1 h
    obtain ⟨role, hrole⟩ := exists_classify_of_mentions hmentions
    obtain ⟨xs, hxs, hmap⟩ := ih hrest
    refine ⟨(arg, role) :: xs, ?_, by rw [List.map_cons, hmap]⟩
    rw [classifyAll, if_neg hne, hrole, hxs]
    rfl

/-! ## Reading options -/

/-- An argument is taken for an option that gives a value under a key. -/
def Takes (g : Grammar) (arg : String) (given : String × String) : Prop :=
  arg ≠ "--" ∧ ∃ m, g.classify arg = .ok (.mention m) ∧ ∀ fuel a rest,
    g.readFrom (fuel + 1) a ((arg, .mention m) :: rest) =
      g.readFrom fuel { a with given := a.given ++ [given] } rest

lemma withValue_ne_separator : withValue name value ≠ "--" := by
  intro h
  have hmem : '=' ∈ (withValue name value).toList := by simp [withValue]
  rw [h] at hmem
  exact absurd hmem (by decide)

lemma takes_value (hg : g.Plain) (hlong : ['-', '-'] <+: name.toList) (hname : '=' ∉ name.toList)
    (hc : g.choice? name = some c) (heffect : c.effect = .value key) :
    g.Takes (withValue name value) (key, value) := by
  refine ⟨withValue_ne_separator, _, classify_withValue hg hlong hname hc, fun fuel a rest => ?_⟩
  have htakes : c.takesValue = true := by simp [Choice.takesValue, heffect]
  simp [readFrom, takeMention, takeSingle, htakes, carryOut, heffect, bind, Except.bind]

lemma takes_flag (hne : arg ≠ "--") (hclassify : g.classify arg = .ok (.mention ⟨c, arg, none⟩))
    (heffect : c.effect = .flag key) : g.Takes arg (key, "") := by
  refine ⟨hne, _, hclassify, fun fuel a rest => ?_⟩
  have htakes : c.takesValue = false := by simp [Choice.takesValue, heffect]
  simp [readFrom, takeMention, takeSingle, htakes, carryOut, heffect, bind, Except.bind]

/-- Arguments that are options give their values one after the other. -/
lemma exists_readFrom_of_takes {given : List (String × String)} (h : List.Forall₂ g.Takes args given) :
    ∃ xs, g.classifyAll args = .ok xs ∧
      ∀ a, g.readFrom xs.length a xs = .ok { a with given := a.given ++ given } := by
  induction h with
  | nil => exact ⟨[], rfl, fun a => by rw [List.append_nil]; rfl⟩
  | @cons arg value args given harg _ ih =>
    obtain ⟨hne, m, hclassify, hread⟩ := harg
    obtain ⟨xs, hxs, hrest⟩ := ih
    refine ⟨(arg, .mention m) :: xs, ?_, fun a => ?_⟩
    · rw [classifyAll, if_neg hne, hclassify, hxs]
      rfl
    · rw [List.length_cons, hread, hrest, List.append_assoc]
      rfl

end Grammar

/-! ## The two commands -/

open Grammar

variable {input charset file : String} {output : Option Path} {strikethrough : Bool} {arg : String}
variable {args : List String}

lemma plain_convertGrammar : convertGrammar.Plain := by
  unfold Grammar.Plain
  decide

/-- No argument behind the command is taken for an option of the program itself. -/
lemma mentions_of_mem_convertLine (h : arg ∈ (convertLine input charset output strikethrough).tail) :
    arg ≠ "--" ∧ mainGrammar.mentions arg = [] := by
  have hvalue {name value : String} (hlong : ['-', '-'] <+: name.toList) (hname : '=' ∉ name.toList)
      (hno : ∀ x ∈ mainGrammar.names, ¬ name.toList <+: x.1.toList) :
      withValue name value ≠ "--" ∧ mainGrammar.mentions (withValue name value) = [] :=
    ⟨withValue_ne_separator, mentions_withValue hlong hname hno⟩
  simp only [convertLine, List.tail_cons, List.mem_cons, List.mem_append, Option.mem_toList,
    Option.map_eq_some_iff] at h
  rcases h with rfl | rfl | ⟨p, -, rfl⟩ | h
  · exact hvalue (by decide) (by decide) (by decide)
  · exact hvalue (by decide) (by decide) (by decide)
  · exact hvalue (by decide) (by decide) (by decide)
  · obtain rfl : arg = "--strikethrough" := by
      cases strikethrough <;> simp_all
    exact ⟨by decide, by decide⟩

/-- The program takes a command and all that follows it as its positional part. -/
lemma read_mainGrammar (h : ∀ arg ∈ args, arg ≠ "--" ∧ mainGrammar.mentions arg = []) :
    mainGrammar.read ("convert" :: args) = .ok { positional := some ("convert" :: args) } := by
  obtain ⟨xs, hxs, hmap⟩ := exists_classifyAll h
  have hcommand : mainGrammar.classify "convert" = .ok .plain := classify_eq_plain (by decide)
  have hall : mainGrammar.classifyAll ("convert" :: args) = .ok (("convert", .plain) :: xs) := by
    rw [classifyAll, if_neg (by decide), hcommand, hxs]
    rfl
  have hread : mainGrammar.readFrom (xs.length + 1) {} (("convert", .plain) :: xs) =
      .ok { positional := some ("convert" :: args) } := by
    rw [← hmap]
    cases h : xs.length <;> rfl
  rw [Grammar.read, hall]
  change (mainGrammar.readFrom (xs.length + 1) {} (("convert", .plain) :: xs) >>= _) = _
  rw [hread]
  rfl

/-- What is given behind the command, under the keys of the options. -/
def convertGiven (input charset : String) (output : Option Path) (strikethrough : Bool) :
    List (String × String) :=
  ("input", input) :: ("charset", charset) ::
    ((output.map fun p => ("output", p.toString)).toList ++
      if strikethrough then [("strikethrough", "")] else [])

lemma takes_convertLine : List.Forall₂ convertGrammar.Takes
    (convertLine input charset output strikethrough).tail
    (convertGiven input charset output strikethrough) := by
  have hplain := plain_convertGrammar
  have hflag : convertGrammar.classify "--strikethrough" = .ok (.mention
    ⟨{ names := ["--strikethrough"], effect := .flag "strikethrough" }, "--strikethrough", none⟩) :=
    classify_of_choice? (by decide) rfl
  refine .cons (takes_value hplain (by decide) (by decide) rfl rfl) ?_
  refine .cons (takes_value hplain (by decide) (by decide) rfl rfl) ?_
  refine List.rel_append ?_ ?_
  · cases output with
    | none => exact .nil
    | some p => exact .cons (takes_value hplain (by decide) (by decide) rfl rfl) .nil
  · cases strikethrough with
    | false => exact .nil
    | true => exact .cons (takes_flag (by decide) hflag rfl) .nil

lemma read_convertGrammar :
    convertGrammar.read (convertLine input charset output strikethrough).tail =
      .ok { given := convertGiven input charset output strikethrough } := by
  obtain ⟨xs, hxs, hread⟩ := exists_readFrom_of_takes
    (takes_convertLine : List.Forall₂ _ _ (convertGiven input charset output strikethrough))
  have hmissing : convertGrammar.missing
      { given := convertGiven input charset output strikethrough } = [] := by
    cases output <;> cases strikethrough <;> rfl
  have hcheck : convertGrammar.checkCommand [] = .ok () := rfl
  simp [Grammar.read, hxs, hread, hcheck, hmissing, Except.mapError, bind, Except.bind, pure, Except.pure]

/-- The task that the arguments behind the command describe. -/
lemma readTask_convertLine (hp : ∀ p ∈ output, p.Clean) :
    readTask (convertLine input charset output strikethrough) =
      .ok (.convert input (some charset) output strikethrough, []) := by
  have hread : readTask (convertLine input charset output strikethrough) =
      (convertGrammar.read (convertLine input charset output strikethrough).tail >>= fun a =>
        pure (.convert ((a.value? "input").getD "") (a.value? "charset")
          ((a.value? "output").map Path.ofString) (a.has "strikethrough"), a.extras)) := rfl
  rw [hread, read_convertGrammar]
  cases output with
  | none => cases strikethrough <;> rfl
  | some p =>
    have hback : Path.ofString p.toString = p := (hp p rfl).ofString_toString
    cases strikethrough
    all_goals
      change Except.ok (Task.convert input (some charset) (some (Path.ofString p.toString)) _, _) = _
      rw [hback]
      rfl

/-- The command line that converts one source is read as such, whatever its parts are called. -/
lemma readInvocation_convertLine (hp : ∀ p ∈ output, p.Clean) :
    readInvocation (convertLine input charset output strikethrough) =
      .ok ⟨none, .convert input (some charset) output strikethrough⟩ := by
  have hmain : mainGrammar.read (convertLine input charset output strikethrough) =
      .ok { positional := some (convertLine input charset output strikethrough) } :=
    read_mainGrammar fun _ => mentions_of_mem_convertLine
  rw [readInvocation, hmain]
  change (readTask (convertLine input charset output strikethrough) >>= _) = _
  rw [readTask_convertLine hp]
  rfl

/-- The command line that executes a batch is read as such, whatever its file is called. -/
lemma readInvocation_runSpecLine : readInvocation (runSpecLine file) = .ok ⟨none, .runSpec file⟩ := by
  have hcommand : mainGrammar.classify "run-spec" = .ok .plain := classify_eq_plain (by decide)
  have hall : mainGrammar.classifyAll (runSpecLine file) =
      .ok [("run-spec", .plain), ("--", .separator), (file, .plain)] := by
    rw [runSpecLine, classifyAll, if_neg (by decide), hcommand]
    rfl
  have hmain : mainGrammar.read (runSpecLine file) =
      .ok { positional := some (runSpecLine file) } := by
    rw [Grammar.read, hall]
    rfl
  rw [readInvocation, hmain]
  rfl

end Wikidown.Command
