import Wikidown.Proofs.Checks
import Wikidown.Proofs.Encodings

/-!
# What fields mean

What stands under a key of a mapping means a text, a truth value or an encoding (`MeansText`,
`MeansChoice`, `MeansEncoding`), and the readers of fields accept just what has such a meaning. Only the
null character in the name of an encoding is no matter of the specification but a fault
(`Fields.charset?_eq_fault_iff`).
-/

namespace Wikidown

namespace Batch

/-! ## What stands under a key -/

/-- The mapping of some fields. -/
def Fields.toValue (fields : Fields) : Value :=
  .mapping (fields.map fun field => (.string field.1, field.2))

/-- A mapping has only the fields that it is made of. -/
lemma Fields.toValue_injective : Function.Injective Fields.toValue := by
  have hinj : Function.Injective fun field : String × Value => (Value.string field.1, field.2) :=
    fun _ _ h => by simpa [Prod.ext_iff] using h
  exact fun _ _ h => List.map_injective_iff.2 hinj (Value.mapping.inj h)

/-- A value is the mapping of some fields, and their names are among the allowed ones. -/
def IsMapping (allowed : List String) (v : Value) (fields : Fields) : Prop :=
  v = fields.toValue ∧ ∀ field ∈ fields, field.1 ∈ allowed

/-- What is under a key means a text, without the blanks at its ends, or no text: that is how null and
a blank text are meant. -/
inductive MeansText : Option Value → Option String → Prop
  | absent : MeansText none none
  | null : MeansText (some .null) none
  | blank {s : String} (h : stripped s = "") : MeansText (some (.string s)) none
  | text {s : String} (h : stripped s ≠ "") : MeansText (some (.string s)) (some (stripped s))

/-- What is under a key means a truth value, or none. -/
inductive MeansChoice : Option Value → Option Bool → Prop
  | absent : MeansChoice none none
  | null : MeansChoice (some .null) none
  | choice (b : Bool) : MeansChoice (some (.bool b)) (some b)

/-- What is under a key means an encoding that has a codec, or none. -/
def MeansEncoding (o : Option Value) (c : Option String) : Prop :=
  MeansText o c ∧ ∀ name ∈ c, '\x00' ∉ name.toList ∧ (Charset.find? name).isSome = true

/-! ## Reading fields -/

section Fields

variable {place : Place} {allowed : List String} {v : Value} {fields : Fields} {name : String}
variable {f : Fault} {α : Type} {k : Fields → Except Failure α} {a : α}

lemma Fields.ofValue_eq_ok_iff : Fields.ofValue place v = .ok fields ↔ v = fields.toValue := by
  rw [Fields.toValue]
  cases v with
  | mapping items =>
    simp only [Fields.ofValue, mapM_eq_ok_iff, Value.mapping.injEq]
    rw [← List.forall₂_eq_eq_eq, List.forall₂_map_right_iff]
    refine iff_of_eq (congrArg (List.Forall₂ · items fields) ?_)
    funext ⟨key, value⟩ field
    cases key <;> simp [refuse, Prod.ext_iff]
  | _ => simp [Fields.ofValue, refuse]

lemma Fields.ofValue_failsIn : FailsIn Failure.InSpec (Fields.ofValue place v) := by
  cases v with
  | mapping items =>
    refine .mapM fun ⟨key, value⟩ => ?_
    cases key with
    | string name => exact .pure
    | _ => exact .refuse
  | _ => exact .refuse

lemma Fields.restrict_eq_ok_iff {u : Unit} :
    fields.restrict place allowed = .ok u ↔ ∀ field ∈ fields, field.1 ∈ allowed := by
  rw [Fields.restrict]
  split
  · rename_i h
    simpa using h
  · rename_i hne
    simpa [refuse] using hne

lemma Fields.restrict_failsIn : FailsIn Failure.InSpec (fields.restrict place allowed) := by
  rw [Fields.restrict]
  split
  · exact .pure
  · exact .refuse

/-- What comes behind the reading of a mapping is done if it is one. -/
lemma readMapping_eq_ok_iff :
    (Fields.ofValue place v >>= fun fields => fields.restrict place allowed >>= fun _ => k fields) =
      .ok a ↔ ∃ fields, IsMapping allowed v fields ∧ k fields = .ok a := by
  simp only [Except.bind_eq_ok_iff, Fields.ofValue_eq_ok_iff, Fields.restrict_eq_ok_iff, IsMapping,
    and_assoc, exists_const]

lemma readMapping_eq_fault_iff :
    (Fields.ofValue place v >>= fun fields => fields.restrict place allowed >>= fun _ => k fields) =
      .error (.fault f) ↔ ∃ fields, IsMapping allowed v fields ∧ k fields = .error (.fault f) := by
  simp only [Except.bind_eq_error_iff, Fields.ofValue_failsIn.ne_fault,
    Fields.restrict_failsIn.ne_fault, false_or, Fields.ofValue_eq_ok_iff, Fields.restrict_eq_ok_iff,
    IsMapping, and_assoc, exists_const]

/-- A field that is null counts as absent. -/
lemma Fields.get?_eq_none_iff :
    fields.get? name = none ↔ fields.lookup name = none ∨ fields.lookup name = some .null := by
  rw [Fields.get?]
  split
  · simp [*]
  · rename_i hnull
    simp only [iff_self_or]
    exact fun h => absurd h hnull

lemma Fields.get?_eq_some_iff :
    fields.get? name = some v ↔ fields.lookup name = some v ∧ v ≠ .null := by
  rw [Fields.get?]
  split
  · simp only [*, Option.some.injEq, reduceCtorEq, false_iff, not_and, not_not]
    exact fun h => h.symm
  · rename_i hnull
    simp only [iff_self_and]
    exact fun h hv => hnull (hv ▸ h)

lemma Fields.text?_eq_ok_iff {o : Option String} :
    fields.text? name = .ok o ↔ MeansText (fields.lookup name) o := by
  rw [Fields.text?, Fields.get?]
  generalize fields.lookup name = v
  constructor
  · intro h
    rcases v with - | v
    · obtain rfl := Except.ok.inj h
      exact .absent
    cases v with
    | null =>
      obtain rfl := Except.ok.inj h
      exact .null
    | string s =>
      obtain rfl := Except.ok.inj h
      split_ifs with hs
      · exact .blank hs
      · exact .text hs
    | _ => simp [refuse] at h
  · rintro (_ | _ | _ | _) <;> simp [*]

lemma Fields.text?_failsIn : FailsIn Failure.InSpec (fields.text? name) := by
  rw [Fields.text?]
  split
  · exact .pure
  · exact .pure
  · exact .refuse

lemma Fields.text_eq_ok_iff {s : String} :
    fields.text name = .ok s ↔ MeansText (fields.lookup name) (some s) := by
  rw [← Fields.text?_eq_ok_iff, Fields.text, Except.bind_eq_ok_iff]
  constructor
  · rintro ⟨_ | s', htext, hs⟩
    · simp [refuse] at hs
    · rwa [← Except.pure_eq_ok_iff.1 hs]
  · exact fun h => ⟨some s, h, rfl⟩

lemma Fields.text_failsIn : FailsIn Failure.InSpec (fields.text name) := by
  refine Fields.text?_failsIn.bind fun o => ?_
  cases o with
  | none => exact .refuse
  | some s => exact .pure

lemma Fields.bool?_eq_ok_iff {o : Option Bool} :
    fields.bool? name = .ok o ↔ MeansChoice (fields.lookup name) o := by
  rw [Fields.bool?, Fields.get?]
  generalize fields.lookup name = v
  constructor
  · intro h
    rcases v with - | v
    · obtain rfl := Except.ok.inj h
      exact .absent
    cases v with
    | null =>
      obtain rfl := Except.ok.inj h
      exact .null
    | bool b =>
      obtain rfl := Except.ok.inj h
      exact .choice b
    | _ => simp [refuse] at h
  · rintro (_ | _ | _) <;> simp

lemma Fields.bool?_failsIn : FailsIn Failure.InSpec (fields.bool? name) := by
  rw [Fields.bool?]
  split
  · exact .pure
  · exact .pure
  · exact .refuse

/-- A text that is meant has no blanks at its ends. -/
lemma MeansText.stripped_eq {o : Option Value} {s : String} (h : MeansText o (some s)) :
    stripped s = s := by
  cases h
  exact stripped_stripped _

/-- The failure of a setting is told as one of the specification, and a fault stays a fault. -/
lemma mapError_asSpecFailure_eq_fault_iff {x : Except Failure α} :
    x.mapError Fields.asSpecFailure = .error (.fault f) ↔ x = .error (.fault f) := by
  cases x with
  | ok a => simp [Except.mapError]
  | error e => cases e <;> simp [Except.mapError, Fields.asSpecFailure]

lemma Fields.charset?_eq_ok_iff {o : Option String} :
    fields.charset? name = .ok o ↔ MeansEncoding (fields.lookup name) o := by
  rw [Fields.charset?, Except.bind_eq_ok_iff, MeansEncoding]
  simp only [Fields.text?_eq_ok_iff]
  constructor
  · rintro ⟨_ | s, htext, hread⟩
    · obtain rfl := Except.pure_eq_ok_iff.1 hread
      exact ⟨htext, by simp⟩
    · obtain ⟨c, hc, hread⟩ := Except.bind_eq_ok_iff.1 hread
      obtain rfl := Except.pure_eq_ok_iff.1 hread
      rw [Except.mapError_eq_ok_iff, Config.readCharset_eq_ok_iff, htext.stripped_eq] at hc
      obtain ⟨rfl, hknown⟩ := hc
      exact ⟨htext, by simpa using hknown⟩
  · rintro ⟨htext, hknown⟩
    refine ⟨o, htext, ?_⟩
    cases o with
    | none => rfl
    | some s =>
      refine Except.bind_eq_ok_iff.2 ⟨s, ?_, rfl⟩
      rw [Except.mapError_eq_ok_iff, Config.readCharset_eq_ok_iff]
      exact ⟨htext.stripped_eq, hknown s rfl⟩

lemma Fields.charset?_failsIn : FailsIn Failure.InSpecOrFault (fields.charset? name) := by
  have hread (source s : String) : FailsIn Failure.InSpecOrFault
      ((Config.readCharset source s).mapError Fields.asSpecFailure) := by
    intro e h
    rw [Config.readCharset] at h
    split_ifs at h
    · exact .inr ⟨_, (Except.error.inj h).symm⟩
    · exact absurd h (by simp [Except.mapError])
    · exact .inl ⟨_, (Except.error.inj h).symm⟩
  refine Fields.text?_failsIn.orFault.bind fun o => ?_
  cases o with
  | none => exact .pure
  | some s => exact (hread _ _).bind fun _ => .pure

lemma Fields.charset?_eq_fault_iff : fields.charset? name = .error (.fault f) ↔
    f = .nullInName ∧ ∃ c, MeansText (fields.lookup name) (some c) ∧ '\x00' ∈ c.toList := by
  simp only [Fields.charset?, Except.bind_eq_error_iff, Fields.text?_failsIn.ne_fault, false_or,
    Fields.text?_eq_ok_iff]
  constructor
  · rintro ⟨_ | s, htext, hread⟩
    · exact absurd hread Except.pure_ne_error
    · simp only [Except.bind_eq_error_iff, Except.pure_ne_error, and_false, exists_false, or_false,
        mapError_asSpecFailure_eq_fault_iff, Config.readCharset_eq_fault_iff, htext.stripped_eq] at hread
      exact ⟨hread.2, s, htext, hread.1⟩
  · rintro ⟨rfl, s, htext, hnull⟩
    refine ⟨some s, htext, Except.bind_eq_error_iff.2 (.inl ?_)⟩
    rw [mapError_asSpecFailure_eq_fault_iff, Config.readCharset_eq_fault_iff, htext.stripped_eq]
    exact ⟨hnull, rfl⟩

end Fields

end Batch

end Wikidown
