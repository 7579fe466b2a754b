import Mathlib
import Wikidown.Source

/-!
# Names of encodings

A name that is accepted for an encoding stands for one that has a codec (`Config.readCharset_eq_ok_iff`),
but not every codec makes text of bytes. So bytes that are read under an accepted name are text, or
faulty in a certain place, except under the names of the codecs from bytes to bytes and of four codecs
that may refuse bytes as a whole (`decodeSource_accepted`).
-/

namespace Wikidown

namespace Codec

/-- A codec of text that never refuses bytes as a whole: what is wrong with them has a place. -/
def IsPlain (codec : Codec) : Prop :=
  ∃ decode, codec = plain decode

/-- The encodings whose codecs may refuse bytes as a whole. -/
def refusing : List String :=
  ["iso2022_jp_2", "punycode", "idna", "undefined"]

variable {name : String} {codec : Codec}

lemma isText_of_mem : ∀ e ∈ texts, ∃ decode, e.2 = text decode := by
  simp only [texts, List.forall_mem_cons]
  repeat' apply And.intro
  all_goals first
    | exact ⟨_, rfl⟩
    | simp

lemma isPlain_of_mem : ∀ e ∈ texts, e.1 ∉ refusing → e.2.IsPlain := by
  simp only [texts, List.forall_mem_cons]
  repeat' apply And.intro
  all_goals first
    | exact fun _ => ⟨_, rfl⟩
    | exact fun h => absurd (by decide) h
    | simp

lemma lookup_eq_none_of_transform : ∀ name ∈ transforms, texts.lookup name = none := by
  simp only [transforms, List.forall_mem_cons]
  refine ⟨rfl, rfl, rfl, rfl, rfl, rfl, rfl, by simp⟩

/-- A name of a codec is that of one of text, or that of one from bytes to bytes. -/
lemma ofName?_eq_some_iff : ofName? name = some codec ↔
    texts.lookup name = some codec ∨ name ∈ transforms ∧ codec = .transform := by
  rw [ofName?]
  cases h : texts.lookup name with
  | some c =>
    have hname : name ∉ transforms := fun hname => by
      simp [lookup_eq_none_of_transform name hname] at h
    simp [hname]
  | none => simp [eq_comm]

lemma mem_of_lookup (h : texts.lookup name = some codec) : (name, codec) ∈ texts := by
  obtain ⟨front, back, hentries, -⟩ := List.lookup_eq_some_iff.1 h
  simp [hentries]

lemma isPlain_of_lookup (h : texts.lookup name = some codec) (hname : name ∉ refusing) :
    codec.IsPlain :=
  isPlain_of_mem (name, codec) (mem_of_lookup h) hname

end Codec

namespace Charset

variable {name encoding : String}

/-- The encoding that a name stands for: the one that it is an alias of, or else the one that is
called so. -/
def encodingOf (name : String) : String :=
  (unaliased? (normal name)).getD (normal name)

/-- Aliases stand for encodings that have codecs. -/
lemma isSome_ofName?_of_alias : ∀ e ∈ aliases, (Codec.ofName? e.1).isSome = true := by
  decide +kernel

lemma not_mem_of_alias : ∀ e ∈ aliases, '.' ∉ e.1.toList := by
  decide +kernel

lemma isSome_ofNormal?_of_ofAlias? (h : ofAlias? name = some encoding) :
    (ofNormal? encoding).isSome = true := by
  obtain ⟨e, he, rfl⟩ := Option.map_eq_some_iff.1 h
  have hmem := List.mem_of_find?_eq_some he
  have hdot : e.1.contains '.' = false := by simpa using not_mem_of_alias e hmem
  rw [ofNormal?, hdot]
  exact isSome_ofName?_of_alias e hmem

/-- A name stands for the codec of its encoding. -/
lemma find?_eq (name : String) : find? name = ofNormal? (encodingOf name) := by
  rw [find?, encodingOf]
  cases h : unaliased? (normal name) with
  | none => simp
  | some encoding =>
    have hsome : (ofNormal? encoding).isSome = true := by
      simp only [unaliased?, Option.orElse_eq_orElse, Option.orElse_eq_or,
        Option.or_eq_some_iff] at h
      rcases h with h | ⟨-, h⟩
      · exact isSome_ofNormal?_of_ofAlias? h
      · exact isSome_ofNormal?_of_ofAlias? h
    obtain ⟨codec, hcodec⟩ := Option.isSome_iff_exists.1 hsome
    simp [hcodec]

lemma find?_eq_some_iff {codec : Codec} : find? name = some codec ↔
    '.' ∉ (encodingOf name).toList ∧ Codec.ofName? (encodingOf name) = some codec := by
  rw [find?_eq, ofNormal?]
  split_ifs with hdot <;> simp_all

lemma encodingOf_eq_of_ofAlias? (hnormal : normal name = name) (h : ofAlias? name = some encoding) :
    encodingOf name = encoding := by
  simp [encodingOf, unaliased?, hnormal, h]

lemma encodingOf_eq_self (hnormal : normal name = name) (h : unaliased? name = none) :
    encodingOf name = name := by
  simp [encodingOf, hnormal, h]

/-- The empty name is not known. -/
lemma find?_empty : find? "" = none := by
  have hnormal : normal "" = "" := by decide +kernel
  have halias : unaliased? "" = none := by decide +kernel
  have hname : (Codec.ofName? "").isSome = false := by decide +kernel
  simp_all [find?, ofNormal?]

lemma isSome_find?_of_ofAlias? (hnormal : normal name = name) (h : ofAlias? name = some encoding) :
    (find? name).isSome = true := by
  rw [find?_eq, encodingOf_eq_of_ofAlias? hnormal h]
  exact isSome_ofNormal?_of_ofAlias? h

end Charset

lemma isSome_find?_latin1 : (Charset.find? "latin1").isSome = true := by
  have halias : Charset.ofAlias? "latin1" = some "latin_1" := by decide +kernel
  exact Charset.isSome_find?_of_ofAlias? (by decide +kernel) halias

/-- A text that was stripped has no blanks at its ends. -/
lemma Text.strip_strip (s : Text) : Text.strip (Text.strip s) = Text.strip s := by
  change (((s.dropWhile isBlank).rdropWhile isBlank).dropWhile isBlank).rdropWhile isBlank =
    (s.dropWhile isBlank).rdropWhile isBlank
  have hfront : ((s.dropWhile isBlank).rdropWhile isBlank).dropWhile isBlank =
      (s.dropWhile isBlank).rdropWhile isBlank := by
    rw [List.dropWhile_eq_self_iff]
    intro hpos
    have hstart := List.rdropWhile_prefix isBlank (l := s.dropWhile isBlank)
    rw [hstart.getElem hpos]
    exact List.dropWhile_get_zero_not isBlank s (hpos.trans_le hstart.length_le)
  rw [hfront, List.rdropWhile_idempotent]

lemma stripped_stripped (s : String) : stripped (stripped s) = stripped s := by
  simp only [stripped, String.toList_ofList, Text.strip_strip]

namespace Config

variable {source source' written c : String}

/-- An accepted name is without blanks at its ends and without the null character, and stands for a
codec. -/
lemma readCharset_eq_ok_iff : readCharset source written = .ok c ↔
    stripped written = c ∧ '\x00' ∉ c.toList ∧ (Charset.find? c).isSome = true := by
  simp only [readCharset, String.contains_char_eq, decide_eq_true_eq]
  constructor
  · intro h
    split_ifs at h with hnull hfind
    obtain rfl := Except.ok.inj h
    exact ⟨rfl, hnull, hfind⟩
  · rintro ⟨rfl, hnull, hfind⟩
    rw [if_neg hnull, if_pos hfind]

/-- A name that was accepted is accepted again as it is, wherever it comes from. -/
lemma readCharset_of_accepted (h : readCharset source written = .ok c) :
    readCharset source' c = .ok c := by
  obtain ⟨rfl, haccepted⟩ := readCharset_eq_ok_iff.1 h
  exact readCharset_eq_ok_iff.2 ⟨stripped_stripped written, haccepted⟩

lemma readCharset_latin1 : readCharset source "latin1" = .ok "latin1" :=
  readCharset_eq_ok_iff.2 ⟨by cbv, by decide, isSome_find?_latin1⟩

/-- The only fault of a name is the null character in it. -/
lemma readCharset_eq_fault_iff {f : Fault} : readCharset source written = .error (.fault f) ↔
    '\x00' ∈ (stripped written).toList ∧ f = .nullInName := by
  simp only [readCharset, String.contains_char_eq, decide_eq_true_eq]
  split_ifs with hnull hfind <;> simp [hnull, eq_comm]

end Config

open Charset

variable {bytes : Bytes} {source written c label : String}

/-- What bytes are under the name of a codec of text. -/
lemma decodeSource_eq_of_find? {decode : Bytes → Except Undecodable CodeText} (hnull : '\x00' ∉ c.toList)
    (hbytes : bytes ≠ []) (hfind : find? c = some (.text decode)) :
    decodeSource bytes c label = (decode bytes).mapError fun
      | .flawed e => .read (.undecodable label c e.flaw e.start)
      | .refused r => .fault (.refusingCodec c r) := by
  have hcontains : c.contains '\x00' = false := by simpa using hnull
  simp only [decodeSource, hcontains, hbytes, hfind]
  rfl

lemma decodeSource_nil (hnull : '\x00' ∉ c.toList) : decodeSource [] c label = .ok [] := by
  have hcontains : c.contains '\x00' = false := by simpa using hnull
  simp [decodeSource, hcontains]

/-- Some bytes in an encoding are text, or there is a flaw in a certain place. -/
def Judged (bytes : Bytes) (c label : String) : Prop :=
  (∃ text, decodeSource bytes c label = .ok text) ∨
    ∃ flaw start, decodeSource bytes c label = .error (.read (.undecodable label c flaw start))

/-- Under the name of a plain codec all bytes are judged. -/
lemma judged_of_isPlain {codec : Codec} (hnull : '\x00' ∉ c.toList) (hfind : find? c = some codec)
    (hplain : codec.IsPlain) : Judged bytes c label := by
  by_cases hbytes : bytes = []
  · exact hbytes ▸ .inl ⟨[], decodeSource_nil hnull⟩
  obtain ⟨decode, rfl⟩ := hplain
  rw [Judged, decodeSource_eq_of_find? hnull hbytes hfind]
  cases h : decode bytes with
  | ok text => exact .inl ⟨text, by simp [Except.mapError]⟩
  | error e => exact .inr ⟨e.flaw, e.start, by simp [Except.mapError]⟩

/-- Under the name of a codec of text the encoding is never said to be unknown. -/
lemma decodeSource_ne_unknownCharset {decode : Bytes → Except Undecodable CodeText}
    (hnull : '\x00' ∉ c.toList) (hfind : find? c = some (.text decode)) :
    decodeSource bytes c label ≠ .error (.read (.unknownCharset label c)) := by
  by_cases hbytes : bytes = []
  · simp [hbytes, decodeSource_nil hnull]
  rw [decodeSource_eq_of_find? hnull hbytes hfind]
  cases decode bytes with
  | ok text => simp [Except.mapError]
  | error e => cases e <;> simp [Except.mapError]

lemma decodeSource_of_transform (hnull : '\x00' ∉ c.toList) (hbytes : bytes ≠ [])
    (hfind : find? c = some .transform) :
    decodeSource bytes c label = .error (.read (.unknownCharset label c)) := by
  have hcontains : c.contains '\x00' = false := by simpa using hnull
  simp [decodeSource, hcontains, hbytes, hfind]

/-- An accepted name stands for a codec from bytes to bytes, or for one of text. -/
lemma find?_of_accepted (h : Config.readCharset source written = .ok c) : '\x00' ∉ c.toList ∧
    (find? c = some .transform ∧ encodingOf c ∈ Codec.transforms ∨
      ∃ decode, find? c = some (.text decode) ∧ encodingOf c ∉ Codec.transforms ∧
        Codec.texts.lookup (encodingOf c) = some (.text decode)) := by
  obtain ⟨-, hnull, hsome⟩ := Config.readCharset_eq_ok_iff.1 h
  obtain ⟨codec, hfind⟩ := Option.isSome_iff_exists.1 hsome
  refine ⟨hnull, ?_⟩
  rcases Codec.ofName?_eq_some_iff.1 (find?_eq_some_iff.1 hfind).2 with hlookup | ⟨hin, rfl⟩
  · obtain ⟨decode, rfl⟩ : ∃ decode, codec = .text decode :=
      Codec.isText_of_mem _ (Codec.mem_of_lookup hlookup)
    refine .inr ⟨decode, hfind, fun hin => ?_, hlookup⟩
    simp [Codec.lookup_eq_none_of_transform _ hin] at hlookup
  · exact .inl ⟨hfind, hin⟩

/-- Under an accepted name, bytes are said to be in an unknown encoding just if there are any and the
name stands for a codec from bytes to bytes; they are refused as a whole only if it stands for one of
four encodings, and always if it stands for the undefined one. Under every other accepted name, and
whenever there are no bytes, they are judged. -/
theorem decodeSource_accepted (h : Config.readCharset source written = .ok c) (bytes : Bytes)
    (label : String) :
    (decodeSource bytes c label = .error (.read (.unknownCharset label c)) ↔
      bytes ≠ [] ∧ encodingOf c ∈ Codec.transforms) ∧
    ((∃ f, decodeSource bytes c label = .error (.fault f)) →
      bytes ≠ [] ∧ encodingOf c ∈ Codec.refusing) ∧
    (bytes ≠ [] ∧ encodingOf c = "undefined" →
      decodeSource bytes c label = .error (.fault (.refusingCodec c .undefined))) ∧
    (bytes = [] ∨ encodingOf c ∉ Codec.transforms ∧ encodingOf c ∉ Codec.refusing →
      Judged bytes c label) := by
  obtain ⟨hnull, ⟨hfind, hin⟩ | ⟨decode, hfind, hno, hlookup⟩⟩ := find?_of_accepted h
  all_goals
    by_cases hbytes : bytes = []
    · subst hbytes
      simp [Judged, decodeSource_nil hnull]
  · have hunknown : decodeSource bytes c label = .error (.read (.unknownCharset label c)) :=
      decodeSource_of_transform hnull hbytes hfind
    have hdisjoint : ∀ name ∈ Codec.transforms, name ≠ "undefined" := by decide
    simp [hunknown, hbytes, hin, hdisjoint _ hin]
  · have hplain : encodingOf c ∉ Codec.refusing → Judged bytes c label := fun hrefusing =>
      judged_of_isPlain hnull hfind (Codec.isPlain_of_mem _ (Codec.mem_of_lookup hlookup) hrefusing)
    refine ⟨?_, ?_, ?_, ?_⟩
    · simp [decodeSource_ne_unknownCharset hnull hfind, hno]
    · rintro ⟨f, hf⟩
      refine ⟨hbytes, ?_⟩
      by_contra hrefusing
      rcases hplain hrefusing with ⟨text, ht⟩ | ⟨flaw, start, ht⟩ <;> simp [hf] at ht
    · rintro ⟨-, hundefined⟩
      have hlookup' : Codec.texts.lookup "undefined" =
          some (.text fun _ => .error (.refused .undefined)) := rfl
      rw [hundefined, hlookup', Option.some.injEq, Codec.text.injEq] at hlookup
      rw [decodeSource_eq_of_find? hnull hbytes hfind, ← hlookup]
      rfl
    · rintro (hnil | ⟨-, hrefusing⟩)
      · exact absurd hnil hbytes
      · exact hplain hrefusing

lemma find?_unicodeEscape :
    find? "unicode_escape" = some (Codec.plain (decodeWith Escape.next 0)) := by
  have hencoding : encodingOf "unicode_escape" = "unicode_escape" :=
    encodingOf_eq_self (by decide +kernel) (by decide +kernel)
  exact find?_eq_some_iff.2 ⟨by rw [hencoding]; decide, by rw [hencoding]; rfl⟩

lemma readCharset_unicodeEscape :
    Config.readCharset source "unicode_escape" = .ok "unicode_escape" :=
  Config.readCharset_eq_ok_iff.2 ⟨by cbv, by decide, by rw [find?_unicodeEscape]; rfl⟩

lemma decodeSource_unicodeEscape {text : CodeText} (hbytes : bytes ≠ [])
    (h : decodeWith Escape.next 0 bytes = .ok text) :
    decodeSource bytes "unicode_escape" label = .ok text := by
  rw [decodeSource_eq_of_find? (by decide) hbytes find?_unicodeEscape, h]
  rfl

/-- The escape of the first surrogate. -/
def loneEscape : Bytes :=
  Utf8.encode ['\\', 'u', 'd', '8', '0', '0']

/-- An escape may give a lone surrogate. -/
lemma decodeSource_loneEscape :
    decodeSource loneEscape "unicode_escape" label = .ok [.lone 0] :=
  decodeSource_unicodeEscape (by decide) (by cbv)

lemma encodingOf_rot13 : encodingOf "rot13" = "rot_13" :=
  encodingOf_eq_of_ofAlias? (by decide +kernel) (by decide +kernel)

/-- A codec from text to text is accepted, with blanks around its name, and then said to be unknown. -/
theorem decodeSource_accepted_rot13 : Config.readCharset "--charset" " rot13 " = .ok "rot13" ∧
    ∀ label, decodeSource [0x61] "rot13" label = .error (.read (.unknownCharset label "rot13")) := by
  have hfind : find? "rot13" = some .transform :=
    find?_eq_some_iff.2 ⟨by rw [encodingOf_rot13]; decide, by rw [encodingOf_rot13]; rfl⟩
  have hread : Config.readCharset "--charset" " rot13 " = .ok "rot13" :=
    Config.readCharset_eq_ok_iff.2 ⟨by cbv, by decide, by rw [hfind]; rfl⟩
  refine ⟨hread, fun label => ?_⟩
  obtain ⟨hunknown, -⟩ := decodeSource_accepted hread [0x61] label
  exact hunknown.2 ⟨by simp, by rw [encodingOf_rot13]; decide⟩

lemma encodingOf_hex : encodingOf "hex" = "hex_codec" :=
  encodingOf_eq_of_ofAlias? (by decide +kernel) (by decide +kernel)

/-- An encoding that is accepted and then said to be unknown. -/
theorem decodeSource_hex : Config.readCharset "--charset" "hex" = .ok "hex" ∧
    decodeSource [0x61] "hex" "page.jira" = .error (.read (.unknownCharset "page.jira" "hex")) := by
  have hfind : find? "hex" = some .transform :=
    find?_eq_some_iff.2 ⟨by rw [encodingOf_hex]; decide, by rw [encodingOf_hex]; rfl⟩
  exact ⟨Config.readCharset_eq_ok_iff.2 ⟨by cbv, by decide, by rw [hfind]; rfl⟩,
    decodeSource_of_transform (by decide) (by simp) hfind⟩

end Wikidown
