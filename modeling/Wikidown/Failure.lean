import Wikidown.Charset.Reading
import Wikidown.Files.Walk
import Wikidown.Value
import Wikidown.Yaml.Error

/-!
# Failures

Everything that can stop a run, by its cause, with the message that each cause has. Most causes are
foreseen: bad settings, sources that cannot be read, outputs that cannot be written, unusable batch
specifications. The faults are what the surroundings refuse beyond that.
-/

namespace Wikidown

/-- A value that is no markup. -/
inductive InputError
  | absent
  | notText (kind : String)
deriving DecidableEq, Repr

/-- The message about a value that is no markup. -/
def InputError.message : InputError → String
  | absent => "Conversion input must not be None. Pass markup text; an empty string is allowed."
  | notText kind =>
    s!"Conversion input must be str, got {kind}. " ++
      "Decode bytes with the source charset before converting."

/-- A setting that cannot be read. It came from a source and was written in a certain way. -/
inductive ConfigError
  | unknownCharset (source written : String)
  | notBoolean (source written : String)
  | unknownLevel (source written : String)
deriving DecidableEq, Repr

/-- The message about a setting. -/
def ConfigError.message : ConfigError → String
  | unknownCharset source written =>
    s!"Invalid {source} value: unknown charset '{written}'. " ++
      "Use a codec name such as UTF-8, ISO-8859-1 or GBK."
  | notBoolean source written =>
    s!"Invalid {source} value: expected boolean, got '{written}'. " ++
      "Use one of: 1, true, yes, on, 0, false, no, off."
  | unknownLevel source written =>
    s!"Invalid {source} value: '{written}'. Use one of: DEBUG, INFO, WARNING, ERROR, CRITICAL."

/-- A source that cannot be read. -/
inductive ReadError
  | badAddress (uri : String)
  | missing (path : Path)
  | notRegular (path : Path)
  | unreadable (path : Path) (e : SystemError)
  | missingObject (bucket key : String)
  | unknownCharset (label charset : String)
  | undecodable (label charset : String) (flaw : Flaw) (start : Nat)
deriving DecidableEq, Repr

/-- The message about a source. -/
def ReadError.message : ReadError → String
  | badAddress uri =>
    s!"Invalid S3 URI '{uri}': expected s3://bucket/key. Provide both bucket and object key."
  | missing path =>
    s!"Failed to read source at {path}: path does not exist. Provide an existing markup file."
  | notRegular path =>
    s!"Failed to read source at {path}: not a regular file. Provide a single markup file."
  | unreadable path e =>
    s!"Failed to read source at {path}: {e.message}. Check file permissions."
  | missingObject bucket key =>
    s!"Failed to read s3://{bucket}/{key}: NoSuchKey. Check the object key and AWS credentials."
  | unknownCharset label charset =>
    s!"Failed to decode {label}: unknown charset '{charset}'. " ++
      "Pass a codec name such as UTF-8 or GBK."
  | undecodable label charset flaw start =>
    s!"Failed to decode {label} as {charset}: {flaw.reason} at byte {start}. " ++
      "Pass the charset the file was saved with."

/-- The places of a batch specification that hold a mapping. Jobs are counted from one. -/
inductive Place
  | root
  | defaults
  | job (number : Nat)
deriving DecidableEq, Repr

/-- The full name of a place. -/
def Place.title : Place → String
  | root => "run spec root"
  | defaults => "run spec defaults"
  | job number => s!"run spec job #{number}"

/-- The name of a place where its fields are spoken of. -/
def Place.label : Place → String
  | root => "root"
  | defaults => "defaults"
  | job number => s!"run spec job #{number}"

/-- A batch specification that cannot be used. -/
inductive SpecError
  | missing (path : Path)
  | unreadable (path : Path) (e : SystemError)
  | notYaml (path : Path) (c : Yaml.Complaint)
  | empty (path : Path)
  | notMapping (place : Place) (kind : String)
  | keyNotText (place : Place) (kind : String)
  | unknownFields (place : Place) (names : List String)
  | versionNotInteger
  | unsupportedVersion (version : Int)
  | noJobs
  | jobsNotList (kind : String)
  | emptyJobs
  | missingField (name : String)
  | fieldNotText (name : String)
  | fieldNotBoolean (name : String)
  | charset (e : ConfigError)
  | collision (first second : String) (output : Path)
deriving DecidableEq, Repr

/-- The message about a batch specification. -/
def SpecError.message : SpecError → String
  | missing path => s!"Run spec file does not exist at {path}. Provide a valid YAML file path."
  | unreadable path e =>
    s!"Failed to read run spec at {path}: {e.message}. Check file permissions and retry."
  | notYaml path c =>
    s!"Failed to parse YAML run spec at {path}: {c.description}. Fix YAML syntax and retry."
  | empty path => s!"Run spec at {path} is empty. Define 'version' and 'jobs'."
  | notMapping place kind => s!"Invalid {place.title}: expected object mapping, got {kind}."
  | keyNotText place kind => s!"Invalid {place.title}: expected string keys, got {kind}."
  | unknownFields place names =>
    s!"Run spec {place.label} contains unknown fields: " ++ ", ".intercalate names ++ "."
  | versionNotInteger => "Run spec field 'version' must be an integer. Set version: 1."
  | unsupportedVersion version => s!"Unsupported run spec version {version}. Use version: 1."
  | noJobs => "Run spec missing required field 'jobs'. Add a non-empty list of inputs."
  | jobsNotList kind => s!"Invalid run spec jobs: expected list, got {kind}."
  | emptyJobs => "Run spec field 'jobs' must include at least one job."
  | missingField name => s!"Run-spec job is missing required field '{name}'."
  | fieldNotText name => s!"Run-spec field '{name}' must be a string when provided."
  | fieldNotBoolean name => s!"Run-spec field '{name}' must be true/false."
  | charset e => e.message
  | collision first second output =>
    s!"Run spec jobs {first} and {second} both write to {output}. " ++
      "Set a distinct output for one of them."

/-- Some characters of ASCII as they are written for bytes. -/
def quotedBytes (s : Text) : String :=
  "b" ++ Quoted.quoted (String.ofList s)

/-- A code point in quotes. -/
def CodePoint.quoted : CodePoint → String
  | char c => Quoted.quoted (String.singleton c)
  | lone n => "'" ++ String.ofList (Quoted.numberEscape (lone n).toNat) ++ "'"

/-- The message of a codec that refuses bytes. -/
def Refusal.message (codec : String) (r : Refusal) : String :=
  let failed := fun kind reason : String =>
    s!"decoding with '{codec}' codec failed ({kind}: {reason})"
  let wrapped := failed "UnicodeError"
  match r with
  | undefined => wrapped "undefined encoding"
  | breakdown => failed "RuntimeError" Flaw.unreadableTable.reason
  | incompleteNumber => wrapped "incomplete punicode string"
  | badDigit c => wrapped s!"Invalid extended code point '{c}'"
  | beyondUnicode n => wrapped ("Invalid character U+" ++ String.ofList (Quoted.hex 1 n))
  | labelLength => wrapped "label empty or too long"
  | markedLabel => wrapped "Label starts with ACE prefix"
  | invalidCharacter p => wrapped ("Invalid character " ++ p.quoted)
  | mixedDirections => wrapped "Violation of BIDI requirement 2"
  | openDirection => wrapped "Violation of BIDI requirement 3"
  | otherForm label form =>
    s!"('IDNA does not round-trip', {quotedBytes label}, {quotedBytes form})"
  | within inner r => wrapped (Refusal.message inner r)

/-- What the surroundings refuse. -/
inductive Fault
  | nullInName
  | nullInPath
  | refusingCodec (charset : String) (r : Refusal)
  | unknownHome
  | linkLoop (path : Path)
  | system (e : SystemError)
  | unencodable (run : LoneRun)
  | notUtf8 (e : DecodeError) (first : UInt8)
  | misfit (m : Yaml.Misfit)
  | longNumber
deriving DecidableEq, Repr

/-- A byte in two hexadecimal digits. -/
def hexByte (b : UInt8) : String :=
  String.ofList (Quoted.hex 2 b.toNat)

/-- The message about lone surrogates in a text that is to be written. -/
def LoneRun.message (r : LoneRun) : String :=
  let place :=
    if r.stop = r.start + 1 then
      s!"character {(CodePoint.lone r.first).quoted} in position {r.start}"
    else s!"characters in position {r.start}-{r.stop - 1}"
  s!"'utf-8' codec can't encode {place}: surrogates not allowed"

/-- The message of a fault. -/
def Fault.message : Fault → String
  | nullInName => "embedded null character"
  | nullInPath => "embedded null byte"
  | refusingCodec charset r => r.message charset
  | unknownHome => "Could not determine home directory."
  | linkLoop path => "Symlink loop from " ++ Quoted.quoted path.toString
  | system e => e.message
  | unencodable run => run.message
  | notUtf8 e first =>
    if e.stop = e.start + 1 then
      s!"'utf-8' codec can't decode byte 0x{hexByte first} in position {e.start}: {e.flaw.reason}"
    else
      s!"'utf-8' codec can't decode bytes in position {e.start}-{e.stop - 1}: {e.flaw.reason}"
  | misfit m => m.message
  | longNumber =>
    "Exceeds the limit (4300 digits) for integer string conversion; " ++
      "use sys.set_int_max_str_digits() to increase the limit"

/-- Why a run stops. -/
inductive Failure
  | input (e : InputError)
  | config (e : ConfigError)
  | read (e : ReadError)
  | write (path : Path) (e : SystemError)
  | remoteSupport
  | spec (e : SpecError)
  | fault (f : Fault)
deriving DecidableEq, Repr

/-- The message of a failure. -/
def Failure.message : Failure → String
  | input e => e.message
  | config e => e.message
  | read e => e.message
  | write path e =>
    s!"Failed to write Markdown to {path}: {e.message}. Check the output directory and permissions."
  | remoteSupport =>
    "S3 support requires boto3, but it is not installed. Install jiramd[s3] to read s3:// sources."
  | spec e => e.message
  | fault f => f.message

/-- Whether a failure is foreseen, so that it is reported as a message of the program. -/
def Failure.isForeseen : Failure → Bool
  | fault _ => false
  | _ => true

end Wikidown
