import Wikidown.Conversion

/-!
# Sources

Where markup is read from: a local file, or an object of a remote store, whose address names its
bucket and its key.
-/

namespace Wikidown

/-- The address of a remote object. -/
structure Address where
  bucket : String
  key : String
deriving DecidableEq, Repr

namespace Address

/-- The beginning of every address. -/
def scheme : Text :=
  "s3://".toList

/-- Whether a source is remote. -/
def isRemote (uri : String) : Bool :=
  scheme.isPrefixOf uri.toList

/-- The address that a text writes. The bucket ends at the first slash; the key is not empty and does
not end with a slash. -/
def parse (uri : String) : Except Failure Address :=
  let s := (Text.after? scheme uri.toList).getD uri.toList
  let bucket := s.takeWhile (· != '/')
  let key := (s.dropWhile (· != '/')).tail
  if bucket = [] ∨ key = [] ∨ key.getLast? = some '/' then .error (.read (.badAddress uri))
  else .ok ⟨String.ofList bucket, String.ofList key⟩

end Address

/-- The text of some bytes in an encoding; `label` names the source in messages. No bytes are no text
in every encoding, known or not. -/
def decodeSource (bytes : Bytes) (charset label : String) : Except Failure CodeText :=
  if charset.contains '\x00' then .error (.fault .nullInName)
  else if bytes = [] then .ok []
  else
    match Charset.find? charset with
    | some (.text decode) =>
      (decode bytes).mapError fun
        | .flawed e => .read (.undecodable label charset e.flaw e.start)
        | .refused r => .fault (.refusingCodec charset r)
    | some .transform | none => .error (.read (.unknownCharset label charset))

namespace Run

/-- The content of a local file. -/
def readLocal (p : Path) : Run Bytes := do
  if p.hasNull then throw (.read (.missing p))
  let s ← get
  match s.files.look s.current p with
  | .ok (.file content) => return content
  | .ok (.barred false) => throw (.read (.unreadable p ⟨.denied, p⟩))
  | .ok _ => throw (.read (.notRegular p))
  | .error o => if o.hides then refuse (.system ⟨o, p⟩) else throw (.read (.missing p))

/-- The content of a remote object. -/
def readRemote (c : Config) (a : Address) : Run Bytes := do
  match (← get).objects with
  | none => throw .remoteSupport
  | some objects =>
    request (.openSession c.sessionSettings)
    request .openClient
    request (.getObject a.bucket a.key)
    match objects.lookup (a.bucket, a.key) with
    | some content => return content
    | none => throw (.read (.missingObject a.bucket a.key))

/-- The bytes of a source. -/
def sourceBytes (c : Config) (source : String) : Run Bytes := do
  if Address.isRemote source then readRemote c (← ofExcept (Address.parse source))
  else readLocal (← expandHome (Path.ofString source))

/-- The markup of a source. -/
def sourceText (c : Config) (charset source : String) : Run CodeText := do
  let bytes ← sourceBytes c source
  let text ← ofExcept (decodeSource bytes charset source)
  emit (.read source charset text.length)
  return text

/-- Reads a source and converts it. -/
def sourceMarkdown (c : Config) (charset : String) (o : Options) (source : String) :
    Run CodeText := do
  performConversion o (← sourceText c charset source)

/-- Converts a source as the settings say where nothing else is said. The name of an encoding counts
as absent if it is empty. -/
def convertSource (c : Config) (source : String) (charset : Option String)
    (o : Option Options) : Run CodeText :=
  sourceMarkdown c ((charset.filter (· ≠ "")).getD c.charset) (o.getD ⟨c.strikethrough⟩) source

end Run

end Wikidown
