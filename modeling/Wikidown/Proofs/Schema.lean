import Mathlib.Algebra.Group.Int.Defs
import Mathlib.Algebra.Group.Nat.Defs
import Wikidown.Batch.Spec
import Wikidown.Proofs.Fields

/-!
# The schema of batch specifications

What a value means as a batch specification is said here without the order in which its parts are
checked: a mapping with certain keys, the version, what holds for all jobs, and one job for each row
(`Batch.Means`). The checks accept just the values that mean something, and give what they mean
(`Batch.ofValue_means`). A value that means nothing is refused as a specification, except that the
null character in the name of an encoding and a version that is too long to be written are faults of
another kind (`Batch.Overlooked`, `Batch.Spec.ofValue_eq_fault_iff`).
-/

namespace Wikidown

namespace Batch

/-! ## What a value means -/

/-- The keys of a batch specification. -/
def rootNames : List String :=
  ["version", "defaults", "jobs"]

/-- The keys of what holds for all jobs. -/
def defaultNames : List String :=
  ["charset", "strikethrough", "output_dir"]

/-- The keys of a job. -/
def entryNames : List String :=
  ["input", "output", "charset"]

/-- What is under a key says what holds for all jobs. -/
inductive MeansDefaults : Option Value → Defaults → Prop
  | absent : MeansDefaults none {}
  | null : MeansDefaults (some .null) {}
  | fields {v : Value} {fields : Fields} {d : Defaults} (hfields : IsMapping defaultNames v fields)
    (hcharset : MeansEncoding (fields.lookup "charset") d.charset)
    (hstrikethrough : MeansChoice (fields.lookup "strikethrough") d.strikethrough)
    (houtputDir : MeansText (fields.lookup "output_dir") d.outputDir) : MeansDefaults (some v) d

/-- A value means a job: it is the input alone, or a mapping. -/
inductive MeansEntry : Value → Entry → Prop
  | input {s : String} (h : stripped s ≠ "") : MeansEntry (.string s) { input := stripped s }
  | fields {v : Value} {fields : Fields} {entry : Entry} (hfields : IsMapping entryNames v fields)
    (hinput : MeansText (fields.lookup "input") (some entry.input))
    (houtput : MeansText (fields.lookup "output") entry.output)
    (hcharset : MeansEncoding (fields.lookup "charset") entry.charset) : MeansEntry v entry

/-- A value has rows, and at least one. -/
def HasRows (v : Value) (rows : List Value) : Prop :=
  (v = .list rows ∨ v = .tuple rows) ∧ rows ≠ []

/-- A value means a batch specification with some defaults and some jobs. -/
inductive Means (v : Value) (d : Defaults) (entries : List Entry) : Prop
  | fields {fields : Fields} {jobs : Value} {rows : List Value} (hfields : IsMapping rootNames v fields)
    (hversion : fields.lookup "version" = some (.int 1))
    (hdefaults : MeansDefaults (fields.lookup "defaults") d)
    (hjobs : fields.lookup "jobs" = some jobs) (hrows : HasRows jobs rows)
    (hentries : List.Forall₂ MeansEntry rows entries)

/-! ## Reading the parts -/

namespace Spec

variable {v : Value} {fields : Fields} {f : Fault} {number : Nat} {d : Defaults} {entry : Entry}
variable {entries : List Entry} {base : Path} {rows : List Value}

/-- A whole number has more digits than can be written. -/
def Unwritable (n : Int) : Prop :=
  10 ^ maxWritten ≤ n.natAbs

lemma unwritable_iff {n : Int} : maxWritten < (toString n.natAbs).length ↔ Unwritable n := by
  have hlength : (toString n.natAbs).length ≤ maxWritten ↔ n.natAbs < 10 ^ maxWritten :=
    Nat.length_repr_le_iff (by decide)
  rw [Unwritable, ← Nat.not_le, hlength, Nat.not_lt]

lemma not_unwritable_version : ¬ Unwritable version := by
  rw [← unwritable_iff]
  decide

/-- What the version is checked for. -/
lemma checkVersion_eq_ok_iff {u : Unit} :
    checkVersion fields = .ok u ↔ fields.lookup "version" = some (.int version) := by
  rw [checkVersion, Fields.get?]
  generalize fields.lookup "version" = o
  rcases o with - | v
  · simp [refuse]
  cases v with
  | int n =>
    by_cases hn : n = version
    · simp [hn]
    · simp only [hn, if_false, refuse, Option.some.injEq, Value.int.injEq, iff_false]
      split_ifs <;> simp
  | _ => simp [refuse]

lemma checkVersion_eq_fault_iff : checkVersion fields = .error (.fault f) ↔
    f = .longNumber ∧ ∃ n, fields.lookup "version" = some (.int n) ∧ Unwritable n := by
  rw [checkVersion, Fields.get?]
  generalize fields.lookup "version" = o
  rcases o with - | v
  · simp [refuse]
  cases v with
  | int n =>
    simp only [Option.some.injEq, Value.int.injEq, exists_eq_left', unwritable_iff, refuse]
    split_ifs with hn hlong
    · simp [hn, not_unwritable_version]
    · simp [unwritable_iff.1 hlong, eq_comm]
    · simp [mt unwritable_iff.2 hlong]
  | _ => simp [refuse]

lemma checkVersion_failsIn : FailsIn Failure.InSpecOrFault (checkVersion fields) := by
  rw [checkVersion]
  split
  · split_ifs
    · exact .pure
    · exact fun e h => .inr ⟨_, (Except.error.inj h).symm⟩
    · exact .orFault .refuse
  · exact .orFault .refuse

/-- A text under a key names an encoding, and the null character is in the name. -/
def NamesNull (o : Option Value) : Prop :=
  ∃ c, MeansText o (some c) ∧ '\x00' ∈ c.toList

lemma meansDefaults_some_iff (h : v ≠ .null) : MeansDefaults (some v) d ↔
    ∃ fields, IsMapping defaultNames v fields ∧ MeansEncoding (fields.lookup "charset") d.charset ∧
      MeansChoice (fields.lookup "strikethrough") d.strikethrough ∧
      MeansText (fields.lookup "output_dir") d.outputDir := by
  constructor
  · rintro (_ | _ | ⟨hfields, hcharset, hstrikethrough, hdir⟩)
    · exact absurd rfl h
    · exact ⟨_, hfields, hcharset, hstrikethrough, hdir⟩
  · rintro ⟨fields, hfields, hcharset, hstrikethrough, hdir⟩
    exact .fields hfields hcharset hstrikethrough hdir

lemma meansDefaults_none_iff (h : fields.get? "defaults" = none) :
    MeansDefaults (fields.lookup "defaults") d ↔ {} = d := by
  rcases Fields.get?_eq_none_iff.1 h with hnone | hnull
  · rw [hnone]
    exact ⟨fun h => by cases h; rfl, fun h => h ▸ .absent⟩
  · rw [hnull]
    refine ⟨fun h => ?_, fun h => h ▸ .null⟩
    cases h with
    | null => rfl
    | fields hfields => exact absurd hfields.1 (by simp [Fields.toValue])

lemma defaultsOf_eq_ok_iff :
    defaultsOf fields = .ok d ↔ MeansDefaults (fields.lookup "defaults") d := by
  rw [defaultsOf]
  cases h : fields.get? "defaults" with
  | none => rw [meansDefaults_none_iff h, Except.ok.injEq]
  | some v =>
    obtain ⟨hv, hnull⟩ := Fields.get?_eq_some_iff.1 h
    rw [hv, meansDefaults_some_iff hnull, readMapping_eq_ok_iff]
    simp only [Except.bind_eq_ok_iff, Fields.charset?_eq_ok_iff, Fields.bool?_eq_ok_iff,
      Fields.text?_eq_ok_iff, Except.pure_eq_ok_iff]
    refine exists_congr fun fields => and_congr_right fun _ => ?_
    constructor
    · rintro ⟨c, hc, b, hb, s, hs, rfl⟩
      exact ⟨hc, hb, hs⟩
    · rintro ⟨hc, hb, hs⟩
      exact ⟨_, hc, _, hb, _, hs, rfl⟩

lemma defaultsOf_failsIn : FailsIn Failure.InSpecOrFault (defaultsOf fields) := by
  rw [defaultsOf]
  split
  · exact .pure
  · exact Fields.ofValue_failsIn.orFault.bind fun _ => Fields.restrict_failsIn.orFault.bind fun _ =>
      Fields.charset?_failsIn.bind fun _ => Fields.bool?_failsIn.orFault.bind fun _ =>
        Fields.text?_failsIn.orFault.bind fun _ => .pure

lemma defaultsOf_eq_fault_iff : defaultsOf fields = .error (.fault f) ↔
    f = .nullInName ∧ ∃ v inner, fields.lookup "defaults" = some v ∧ IsMapping defaultNames v inner ∧
      NamesNull (inner.lookup "charset") := by
  rw [defaultsOf]
  cases h : fields.get? "defaults" with
  | none =>
    rcases Fields.get?_eq_none_iff.1 h with hnone | hnull
    · simp [hnone]
    · simp [hnull, IsMapping, Fields.toValue]
  | some v =>
    obtain ⟨hv, hnull⟩ := Fields.get?_eq_some_iff.1 h
    rw [hv, readMapping_eq_fault_iff]
    simp only [Except.bind_eq_error_iff, Fields.charset?_eq_fault_iff, Fields.bool?_failsIn.ne_fault,
      Fields.text?_failsIn.ne_fault, Except.pure_ne_error, and_false, exists_false, or_false,
      Option.some.injEq, NamesNull]
    constructor
    · rintro ⟨inner, hinner, hf, hnull⟩
      exact ⟨hf, v, inner, rfl, hinner, hnull⟩
    · rintro ⟨hf, _, inner, rfl, hinner, hnull⟩
      exact ⟨inner, hinner, hf, hnull⟩

lemma meansText_singleton {s t : String} :
    MeansText ((([("input", .string s)] : Fields)).lookup "input") (some t) ↔
      stripped s ≠ "" ∧ stripped s = t := by
  constructor
  · intro h
    cases h with
    | text hs => exact ⟨hs, rfl⟩
  · rintro ⟨hs, rfl⟩
    exact .text hs

lemma meansEntry_iff (hv : ∀ s, v ≠ .string s) : MeansEntry v entry ↔
    ∃ fields, IsMapping entryNames v fields ∧
      MeansText (fields.lookup "input") (some entry.input) ∧
      MeansText (fields.lookup "output") entry.output ∧
      MeansEncoding (fields.lookup "charset") entry.charset := by
  constructor
  · rintro (_ | ⟨hfields, hinput, houtput, hcharset⟩)
    · exact absurd rfl (hv _)
    · exact ⟨_, hfields, hinput, houtput, hcharset⟩
  · rintro ⟨fields, hfields, hinput, houtput, hcharset⟩
    exact .fields hfields hinput houtput hcharset

/-- What is read of a job that is not written as its input alone. -/
lemma entryOf_of_ne (hv : ∀ s, v ≠ .string s) : entryOf v number =
    Fields.ofValue (.job number) v >>= fun fields =>
      fields.restrict (.job number) entryNames >>= fun _ =>
        fields.text "input" >>= fun input => fields.text? "output" >>= fun output =>
          fields.charset? "charset" >>= fun charset => pure ⟨input, output, charset⟩ := by
  rw [entryOf]
  · rfl
  · exact hv

lemma entryOf_eq_ok_iff : entryOf v number = .ok entry ↔ MeansEntry v entry := by
  by_cases hv : ∃ s, v = .string s
  · obtain ⟨s, rfl⟩ := hv
    simp only [entryOf, Except.bind_eq_ok_iff, Fields.text_eq_ok_iff, meansText_singleton,
      Except.pure_eq_ok_iff]
    constructor
    · rintro ⟨t, ⟨hs, rfl⟩, rfl⟩
      exact .input hs
    · intro h
      cases h with
      | input hs => exact ⟨_, ⟨hs, rfl⟩, rfl⟩
      | fields hfields => exact absurd hfields.1 (by simp [Fields.toValue])
  · have hv' : ∀ s, v ≠ .string s := fun s hs => hv ⟨s, hs⟩
    rw [meansEntry_iff hv', entryOf_of_ne hv', readMapping_eq_ok_iff]
    simp only [Except.bind_eq_ok_iff, Fields.text_eq_ok_iff, Fields.text?_eq_ok_iff,
      Fields.charset?_eq_ok_iff, Except.pure_eq_ok_iff]
    refine exists_congr fun fields => and_congr_right fun _ => ?_
    constructor
    · rintro ⟨input, hinput, output, houtput, charset, hcharset, rfl⟩
      exact ⟨hinput, houtput, hcharset⟩
    · rintro ⟨hinput, houtput, hcharset⟩
      exact ⟨_, hinput, _, houtput, _, hcharset, rfl⟩

lemma entryOf_failsIn : FailsIn Failure.InSpecOrFault (entryOf v number) := by
  by_cases hv : ∃ s, v = .string s
  · obtain ⟨s, rfl⟩ := hv
    exact Fields.text_failsIn.orFault.bind fun _ => .pure
  · rw [entryOf_of_ne fun s hs => hv ⟨s, hs⟩]
    exact Fields.ofValue_failsIn.orFault.bind fun _ => Fields.restrict_failsIn.orFault.bind fun _ =>
      Fields.text_failsIn.orFault.bind fun _ => Fields.text?_failsIn.orFault.bind fun _ =>
        Fields.charset?_failsIn.bind fun _ => .pure

/-- A row whose input and output are texts, with the null character in the name of its encoding. -/
def EntryNamesNull (v : Value) : Prop :=
  ∃ fields input output, IsMapping entryNames v fields ∧
    MeansText (fields.lookup "input") (some input) ∧ MeansText (fields.lookup "output") output ∧
    NamesNull (fields.lookup "charset")

lemma entryOf_eq_fault_iff :
    entryOf v number = .error (.fault f) ↔ f = .nullInName ∧ EntryNamesNull v := by
  by_cases hv : ∃ s, v = .string s
  · obtain ⟨s, rfl⟩ := hv
    have hno : ¬ EntryNamesNull (.string s) := fun ⟨fields, _, _, hfields, _⟩ =>
      absurd hfields.1 (by simp [Fields.toValue])
    simp only [entryOf, Except.bind_eq_error_iff, Fields.text_failsIn.ne_fault, Except.pure_ne_error,
      hno, and_false, exists_false, or_self]
  · rw [entryOf_of_ne fun s hs => hv ⟨s, hs⟩, readMapping_eq_fault_iff]
    simp only [Except.bind_eq_error_iff, Fields.text_failsIn.ne_fault, Fields.text?_failsIn.ne_fault,
      false_or, Fields.text_eq_ok_iff, Fields.text?_eq_ok_iff, Fields.charset?_eq_fault_iff,
      Except.pure_ne_error, and_false, exists_false, or_false, EntryNamesNull, NamesNull]
    constructor
    · rintro ⟨fields, hfields, input, hinput, output, houtput, hf, hnull⟩
      exact ⟨hf, fields, input, output, hfields, hinput, houtput, hnull⟩
    · rintro ⟨hf, fields, input, output, hfields, hinput, houtput, hnull⟩
      exact ⟨fields, hfields, input, hinput, output, houtput, hf, hnull⟩

/-- The rows of a batch specification are read one after the other. -/
lemma entriesOf_of_rows (hjobs : fields.lookup "jobs" = some v) (hrows : HasRows v rows) :
    entriesOf fields = (rows.zipIdx 1).mapM fun p => entryOf p.1 p.2 := by
  obtain ⟨rfl | rfl, hrows⟩ := hrows
  all_goals
    obtain ⟨row, rows, rfl⟩ := List.exists_cons_of_ne_nil hrows
    simp [entriesOf, Fields.get?, hjobs]

/-- What has no rows is refused as a specification. -/
lemma entriesOf_of_no_rows (h : ∀ v rows, fields.lookup "jobs" = some v → ¬ HasRows v rows) :
    ∃ x, entriesOf fields = .error (.spec x) := by
  rw [entriesOf]
  cases hget : fields.get? "jobs" with
  | none => exact ⟨_, rfl⟩
  | some v =>
    have hv := fun rows => h v rows (Fields.get?_eq_some_iff.1 hget).1
    cases v with
    | list rows | tuple rows =>
      cases rows with
      | nil => exact ⟨_, rfl⟩
      | cons row rows => exact absurd (by simp [HasRows]) (hv (row :: rows))
    | _ => exact ⟨_, rfl⟩

lemma HasRows.unique {rows' : List Value} (h : HasRows v rows) (h' : HasRows v rows') :
    rows = rows' := by
  obtain ⟨rfl | rfl, -⟩ := h <;> simpa [HasRows] using h'.1

lemma entriesOf_eq_ok_iff : entriesOf fields = .ok entries ↔
    ∃ v rows, fields.lookup "jobs" = some v ∧ HasRows v rows ∧
      List.Forall₂ MeansEntry rows entries := by
  constructor
  · intro h
    by_cases hrows : ∃ v rows, fields.lookup "jobs" = some v ∧ HasRows v rows
    · obtain ⟨v, rows, hv, hrows⟩ := hrows
      rw [entriesOf_of_rows hv hrows, mapM_eq_ok_iff] at h
      simp only [entryOf_eq_ok_iff] at h
      exact ⟨v, rows, hv, hrows, forall₂_zipIdx_iff.1 h⟩
    · obtain ⟨x, hx⟩ := entriesOf_of_no_rows fun v rows hv hr => hrows ⟨v, rows, hv, hr⟩
      simp [hx] at h
  · rintro ⟨v, rows, hv, hrows, hentries⟩
    rw [entriesOf_of_rows hv hrows, mapM_eq_ok_iff]
    simp only [entryOf_eq_ok_iff]
    exact forall₂_zipIdx_iff.2 hentries

lemma entriesOf_failsIn : FailsIn Failure.InSpecOrFault (entriesOf fields) := by
  rw [entriesOf]
  split
  · exact .orFault .refuse
  · exact .orFault .refuse
  · exact .orFault .refuse
  · exact .mapM fun _ => entryOf_failsIn
  · exact .mapM fun _ => entryOf_failsIn
  · exact .orFault .refuse

/-- Of the rows, one is the first that does not mean a job, as the null character is in the name of its
encoding. -/
def RowsNameNull (rows : List Value) : Prop :=
  ∃ front row back, rows = front ++ row :: back ∧ (∀ v ∈ front, ∃ entry, MeansEntry v entry) ∧
    EntryNamesNull row

lemma entriesOf_eq_fault_iff : entriesOf fields = .error (.fault f) ↔ f = .nullInName ∧
    ∃ v rows, fields.lookup "jobs" = some v ∧ HasRows v rows ∧ RowsNameNull rows := by
  constructor
  · intro h
    by_cases hrows : ∃ v rows, fields.lookup "jobs" = some v ∧ HasRows v rows
    · obtain ⟨v, rows, hv, hrows⟩ := hrows
      rw [entriesOf_of_rows hv hrows, mapM_eq_error_iff] at h
      obtain ⟨front, row, back, heq, hfront, hrow⟩ := h
      obtain ⟨hf, hnull⟩ := entryOf_eq_fault_iff.1 hrow
      refine ⟨hf, v, rows, hv, hrows, front.map Prod.fst, row.1, back.map Prod.fst, ?_, ?_, hnull⟩
      · rw [← List.zipIdx_map_fst 1 rows, heq, List.map_append, List.map_cons]
      · refine List.forall_mem_map.2 fun p hp => ?_
        exact (hfront p hp).imp fun _ => entryOf_eq_ok_iff.1
    · obtain ⟨x, hx⟩ := entriesOf_of_no_rows fun v rows hv hr => hrows ⟨v, rows, hv, hr⟩
      simp [hx] at h
  · rintro ⟨rfl, v, rows, hv, hrows, front, row, back, rfl, hfront, hnull⟩
    rw [entriesOf_of_rows hv hrows, mapM_eq_error_iff, List.zipIdx_append, List.zipIdx_cons]
    refine ⟨_, _, _, rfl, fun p hp => ?_, entryOf_eq_fault_iff.2 ⟨rfl, hnull⟩⟩
    exact (hfront p.1 (List.fst_mem_of_mem_zipIdx hp)).imp fun _ => entryOf_eq_ok_iff.2

/-- The checks accept a value just if it means a batch specification, and give what it means. -/
lemma ofValue_eq_ok_iff {spec : Spec} : ofValue base v = .ok spec ↔
    Means v spec.defaults spec.entries ∧ spec.base = base := by
  change (Fields.ofValue .root v >>= fun fields => fields.restrict .root rootNames >>= fun _ =>
    checkVersion fields >>= fun _ => defaultsOf fields >>= fun d => entriesOf fields >>= fun entries =>
      pure ⟨d, entries, base⟩) = .ok spec ↔ _
  rw [readMapping_eq_ok_iff]
  simp only [Except.bind_eq_ok_iff, checkVersion_eq_ok_iff, defaultsOf_eq_ok_iff, entriesOf_eq_ok_iff,
    Except.pure_eq_ok_iff]
  constructor
  · rintro ⟨fields, hfields, -, hversion, d, hd, entries, ⟨jobs, rows, hjobs, hrows, hentries⟩, rfl⟩
    exact ⟨.fields hfields hversion hd hjobs hrows hentries, rfl⟩
  · rintro ⟨⟨hfields, hversion, hd, hjobs, hrows, hentries⟩, rfl⟩
    exact ⟨_, hfields, (), hversion, _, hd, _, ⟨_, _, hjobs, hrows, hentries⟩, rfl⟩

end Spec

/-- What the checks of a specification are not prepared for: a version that is too long to be written
in a message, or the null character in the name of an encoding, if all that is checked before is in
order. -/
inductive Overlooked (v : Value) : Fault → Prop
  | version {fields : Fields} {n : Int} (hfields : IsMapping rootNames v fields)
    (hversion : fields.lookup "version" = some (.int n)) (hn : Spec.Unwritable n) :
    Overlooked v .longNumber
  | defaults {fields inner : Fields} {d : Value} (hfields : IsMapping rootNames v fields)
    (hversion : fields.lookup "version" = some (.int Spec.version))
    (hdefaults : fields.lookup "defaults" = some d) (hinner : IsMapping defaultNames d inner)
    (hcharset : Spec.NamesNull (inner.lookup "charset")) : Overlooked v .nullInName
  | job {fields : Fields} {d : Defaults} {jobs : Value} {rows : List Value}
    (hfields : IsMapping rootNames v fields)
    (hversion : fields.lookup "version" = some (.int Spec.version))
    (hdefaults : MeansDefaults (fields.lookup "defaults") d) (hjobs : fields.lookup "jobs" = some jobs)
    (hrows : HasRows jobs rows) (hnull : Spec.RowsNameNull rows) : Overlooked v .nullInName

namespace Spec

variable {v : Value} {f : Fault} {base : Path}

lemma ofValue_failsIn : FailsIn Failure.InSpecOrFault (ofValue base v) :=
  Fields.ofValue_failsIn.orFault.bind fun _ => Fields.restrict_failsIn.orFault.bind fun _ =>
    checkVersion_failsIn.bind fun _ => defaultsOf_failsIn.bind fun _ =>
      entriesOf_failsIn.bind fun _ => .pure

/-- The checks of a value meet a fault just if there is something that they are not prepared for. -/
lemma ofValue_eq_fault_iff : ofValue base v = .error (.fault f) ↔ Overlooked v f := by
  change (Fields.ofValue .root v >>= fun fields => fields.restrict .root rootNames >>= fun _ =>
    checkVersion fields >>= fun _ => defaultsOf fields >>= fun d => entriesOf fields >>= fun entries =>
      pure (Spec.mk d entries base)) = .error (.fault f) ↔ _
  rw [readMapping_eq_fault_iff]
  simp only [Except.bind_eq_error_iff, checkVersion_eq_fault_iff, checkVersion_eq_ok_iff,
    defaultsOf_eq_fault_iff, defaultsOf_eq_ok_iff, entriesOf_eq_fault_iff, Except.pure_ne_error,
    and_false, exists_false, or_false]
  constructor
  · rintro ⟨fields, hfields, ⟨rfl, n, hversion, hn⟩ | ⟨-, hversion, hdefaults | ⟨d, hd, hjobs⟩⟩⟩
    · exact .version hfields hversion hn
    · obtain ⟨rfl, d, inner, hd, hinner, hcharset⟩ := hdefaults
      exact .defaults hfields hversion hd hinner hcharset
    · obtain ⟨rfl, jobs, rows, hjobs, hrows, hnull⟩ := hjobs
      exact .job hfields hversion hd hjobs hrows hnull
  · rintro (⟨hfields, hversion, hn⟩ | ⟨hfields, hversion, hd, hinner, hcharset⟩ |
      ⟨hfields, hversion, hd, hjobs, hrows, hnull⟩)
    · exact ⟨_, hfields, .inl ⟨rfl, _, hversion, hn⟩⟩
    · exact ⟨_, hfields, .inr ⟨(), hversion, .inl ⟨rfl, _, _, hd, hinner, hcharset⟩⟩⟩
    · exact ⟨_, hfields, .inr ⟨(), hversion, .inr ⟨_, hd, rfl, _, _, hjobs, hrows, hnull⟩⟩⟩

/-- A value that means nothing is refused as a specification, unless the checks meet something that
they are not prepared for. -/
lemma refused_of_not_means (h : ¬ ∃ d entries, Means v d entries) (hf : ¬ ∃ f, Overlooked v f) :
    ∃ x, ofValue base v = .error (.spec x) := by
  cases hv : ofValue base v with
  | ok spec => exact absurd ⟨_, _, (ofValue_eq_ok_iff.1 hv).1⟩ h
  | error e =>
    rcases ofValue_failsIn e hv with ⟨x, rfl⟩ | ⟨f, rfl⟩
    · exact ⟨x, rfl⟩
    · exact absurd ⟨f, ofValue_eq_fault_iff.1 hv⟩ hf

end Spec

/-! ## Names of encodings without the null character -/

/-- In a mapping, a value stands under a key. -/
def Under (key : String) (v w : Value) : Prop :=
  ∃ fields, v = .mapping fields ∧ (.string key, w) ∈ fields

/-- A text stands where a batch specification names an encoding: in the defaults, or in a row. -/
inductive CharsetText (v : Value) (s : String) : Prop
  | defaults {d : Value} (hd : Under "defaults" v d) (hs : Under "charset" d (.string s))
  | job {jobs row : Value} {rows : List Value} (hjobs : Under "jobs" v jobs)
    (hrows : HasRows jobs rows) (hrow : row ∈ rows) (hs : Under "charset" row (.string s))

lemma IsMapping.under {allowed : List String} {v w : Value} {fields : Fields} {key : String}
    (h : IsMapping allowed v fields) (hw : fields.lookup key = some w) : Under key v w := by
  obtain ⟨front, back, hfields, -⟩ := List.lookup_eq_some_iff.1 hw
  exact ⟨_, h.1, by simp [hfields]⟩

lemma mem_of_mem_stripped {c : Char} {s : String} (h : c ∈ (stripped s).toList) : c ∈ s.toList := by
  rw [stripped, String.toList_ofList, Text.strip, List.mem_reverse] at h
  exact (List.dropWhile_sublist _).mem (List.mem_reverse.1 ((List.dropWhile_sublist _).mem h))

/-- A name of an encoding with the null character stands as a text under its key. -/
lemma IsMapping.exists_null {allowed : List String} {v : Value} {fields : Fields}
    (h : IsMapping allowed v fields) (hnull : Spec.NamesNull (fields.lookup "charset")) :
    ∃ s, Under "charset" v (.string s) ∧ '\x00' ∈ s.toList := by
  obtain ⟨c, hc, hnull⟩ := hnull
  generalize ho : fields.lookup "charset" = o at hc
  cases hc with
  | text => exact ⟨_, h.under ho, mem_of_mem_stripped hnull⟩

/-- The version of a specification has more digits than can be written. -/
def LongVersion (v : Value) : Prop :=
  ∃ fields n, IsMapping rootNames v fields ∧ fields.lookup "version" = some (.int n) ∧
    Spec.Unwritable n

/-- Without the null character in the names of encodings only the version is overlooked. -/
lemma Overlooked.longVersion {v : Value} {f : Fault} (h : Overlooked v f)
    (hnull : ∀ s, CharsetText v s → '\x00' ∉ s.toList) : f = .longNumber ∧ LongVersion v := by
  cases h with
  | version hfields hversion hn => exact ⟨rfl, _, _, hfields, hversion, hn⟩
  | defaults hfields hversion hdefaults hinner hcharset =>
    obtain ⟨s, hs, hmem⟩ := hinner.exists_null hcharset
    exact absurd hmem (hnull s (.defaults (hfields.under hdefaults) hs))
  | job hfields hversion hdefaults hjobs hrows hrow =>
    obtain ⟨front, row, back, rfl, -, inner, input, output, hinner, -, -, hcharset⟩ := hrow
    obtain ⟨s, hs, hmem⟩ := hinner.exists_null hcharset
    exact absurd hmem (hnull s (.job (hfields.under hjobs) hrows (by simp) hs))

/-- A job that is written as its input alone means what a mapping with the input means. -/
lemma meansEntry_string_iff {s : String} {entry : Entry} :
    MeansEntry (.string s) entry ↔ MeansEntry (.mapping [(.string "input", .string s)]) entry := by
  rw [Spec.meansEntry_iff (v := .mapping _) (by simp)]
  constructor
  · intro h
    cases h with
    | input hs =>
      exact ⟨[("input", .string s)], ⟨rfl, by simp [entryNames]⟩, .text hs, .absent, .absent, by simp⟩
    | fields hfields => exact absurd hfields.1 (by simp [Fields.toValue])
  · rintro ⟨fields, hfields, hinput, houtput, hcharset, -⟩
    obtain rfl : [("input", .string s)] = fields := Fields.toValue_injective hfields.1
    obtain ⟨input, output, charset⟩ := entry
    obtain ⟨hs, rfl⟩ := Spec.meansText_singleton.1 hinput
    cases houtput
    cases hcharset
    exact .input hs

/-- If the null character is in no name of an encoding, the checks accept a value just if it means a
batch specification, and give what it means; a job that is written as its input alone means the same
as the mapping with this input. A value that means nothing is refused as a specification, unless its
version has more digits than can be written: that is a fault. -/
theorem ofValue_means {base : Path} {v : Value}
    (hnull : ∀ s, CharsetText v s → '\x00' ∉ s.toList) :
    (∀ spec, Spec.ofValue base v = .ok spec ↔
      Means v spec.defaults spec.entries ∧ spec.base = base) ∧
    (∀ s entry, MeansEntry (.string s) entry ↔
      MeansEntry (.mapping [(.string "input", .string s)]) entry) ∧
    ((¬ ∃ d entries, Means v d entries) → ¬ LongVersion v →
      ∃ x, Spec.ofValue base v = .error (.spec x)) ∧
    (LongVersion v → Spec.ofValue base v = .error (.fault .longNumber)) := by
  refine ⟨fun _ => Spec.ofValue_eq_ok_iff, fun _ _ => meansEntry_string_iff, fun hno hlong => ?_, ?_⟩
  · exact Spec.refused_of_not_means hno fun ⟨f, hf⟩ => hlong (hf.longVersion hnull).2
  · rintro ⟨fields, n, hfields, hversion, hn⟩
    exact Spec.ofValue_eq_fault_iff.2 (.version hfields hversion hn)

/-- A batch specification with blanks around the name of an encoding, a blank directory, and a job that
is its input alone. -/
def sampleValue : Value :=
  Fields.toValue [("version", .int 1),
    ("defaults", Fields.toValue [("charset", .string " latin1\t"), ("output_dir", .string " ")]),
    ("jobs", .tuple [.string " a.jira", Fields.toValue [("output", .string "b.md"),
      ("input", .string "b.jira"), ("charset", .null)]])]

/-- What a batch specification with two jobs means. -/
theorem ofValue_means_sample : (∀ s, CharsetText sampleValue s → '\x00' ∉ s.toList) ∧
    Spec.ofValue ⟨.root, []⟩ sampleValue = .ok ⟨{ charset := some "latin1" },
      [{ input := "a.jira" }, { input := "b.jira", output := some "b.md" }], ⟨.root, []⟩⟩ := by
  have hnull : ∀ s, CharsetText sampleValue s → '\x00' ∉ s.toList := by
    rintro s (⟨⟨_, hv, hd⟩, _, hd', hs⟩ | ⟨⟨_, hv, hjobs⟩, ⟨hjobs' | hjobs', -⟩, hrow, _, rfl, hs⟩)
    all_goals
      obtain rfl := Value.mapping.inj hv
    · have hs : s = " latin1\t" := by simp_all [Fields.toValue]
      simp [hs]
    · simp_all
    · simp_all [Fields.toValue]
  have hcharset : MeansText (some (.string " latin1\t")) (some "latin1") := .text (by decide)
  refine ⟨hnull, ((ofValue_means hnull).1 _).2 ⟨?_, rfl⟩⟩
  refine .fields ⟨rfl, by decide⟩ rfl ?_ rfl ⟨.inr rfl, by simp⟩ ?_
  · exact .fields ⟨rfl, by decide⟩ ⟨hcharset, by simp [isSome_find?_latin1]⟩ .absent
      (.blank (by decide))
  · refine .cons (.input (by decide)) (.cons (.fields ⟨rfl, by decide⟩ ?_ ?_ ⟨.null, by simp⟩) .nil)
    · exact .text (by decide)
    · exact .text (by decide)

lemma ofValue_of_unwritable {base : Path} {n : Int} {jobs : Value} (hn : Spec.Unwritable n) :
    Spec.ofValue base (Fields.toValue [("version", .int n), ("jobs", jobs)]) =
      .error (.fault .longNumber) :=
  Spec.ofValue_eq_fault_iff.2 (.version ⟨rfl, by simp [rootNames]⟩ rfl hn)

/-- A version that is too long to be written in a message is a fault, and not a failure of the
specification. -/
theorem ofValue_longVersion : Spec.ofValue ⟨.root, []⟩ (Fields.toValue
      [("version", .int (10 ^ Spec.maxWritten)), ("jobs", .list [.string "a"])]) =
    .error (.fault .longNumber) :=
  ofValue_of_unwritable (by simp [Spec.Unwritable, Int.natAbs_pow])

end Batch

end Wikidown
