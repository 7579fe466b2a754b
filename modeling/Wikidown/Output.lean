import Wikidown.Session

/-!
# Output

Where Markdown is written to: a file, whose directories are made if they are missing, or the standard
output.
-/

namespace Wikidown.Run

/-- Makes a directory and those above it. -/
def makeDirectories (p : Path) : Run (Except SystemError Unit) := do
  if p.hasNull then refuse .nullInPath
  modifyGet fun s =>
    let (result, files) := s.files.makeDirectories s.current p
    (result, { s with files := files })

/-- Writes the bytes of a file. -/
def writeBytes (p : Path) (content : Bytes) : Run Unit := do
  if p.hasNull then refuse .nullInPath
  let s ← get
  match s.files.writeFile s.current p content with
  | .ok files => set { s with files := files }
  | .error o => throw (.write p ⟨o, p⟩)

/-- Writes a text to a file in UTF-8. The file is opened before it is found that a text has lone
surrogates, and is empty then. -/
def writeText (p : Path) (s : CodeText) : Run Unit :=
  match s.scalars with
  | .ok text => writeBytes p (Utf8.encode text)
  | .error run => do
    writeBytes p []
    refuse (.unencodable run)

/-- Writes Markdown to a file. -/
def writeFile (markdown : CodeText) (p : Path) : Run Unit := do
  match ← makeDirectories p.parent with
  | .error e => throw (.write p e)
  | .ok () =>
    writeText p markdown
    emit (.written p markdown.length)

/-- Writes Markdown to a file, or prints it if none is named. -/
def deliver (markdown : CodeText) : Option Path → Run Unit
  | none => printText markdown
  | some p => writeFile markdown p

end Wikidown.Run
