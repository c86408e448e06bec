import TaxiPipeline.Model.StorageUris
import TaxiPipeline.Stateful.Scripts

namespace TaxiPipeline

open Stateful

/-- What the reads of a stream give, one after another; the last one or an empty one ends it. -/
abbrev StreamReads := List (Except PyException Bytes)

/-- What `urlopen` answers: the `Content-Length` as `int` reads it, and the stream. -/
structure Response where
  contentLength : Option (Except PyException Int)
  reads : StreamReads

/-- What a download asks of the file system and of the network. -/
inductive FileRequest where
  | pathExists (path : Path)
  | readBytes (path : Path)
  | mkdir (path : Path)
  | getObject (key : String)
  | openUrl (url : String)
  | createPartial (destination : Path)
  | write (path : Path) (chunk : Bytes)
  | close (path : Path)
  | replace (source target : Path)
  | unlink (path : Path)
  deriving DecidableEq

@[reducible] def FileRequest.Answer : FileRequest → Type
  | .pathExists _ => Bool
  | .readBytes _ => Option Bytes
  | .getObject _ => StreamReads
  | .openUrl _ => Response
  | .createPartial _ => Path
  | .mkdir _ | .write _ _ | .close _ | .replace _ _ | .unlink _ => Unit

abbrev FileScript (α : Type) : Type := Script FileRequest.Answer PyException α

def FileRequest.send (request : FileRequest) : FileScript request.Answer := Script.request request

def fileNotFound (path : Path) : PyException :=
  ⟨.other "FileNotFoundError", String.ofList ("No such file or directory: ".toList ++ ['/'].intercalate path)⟩

/-- `while chunk := stream.read(CHUNK_SIZE)`: the chunks go to the file, and their bytes are counted. -/
def copyChunks (path : Path) (size : Nat) : StreamReads → FileScript Nat
  | [] => return size
  | .error error :: _ => Script.raise error
  | .ok chunk :: reads =>
    if chunk = [] then return size
    else do
      (FileRequest.write path chunk).send
      copyChunks path (size + chunk.length) reads

/-- The check of `ensure_local`; `int(expected_size)` raises only when it is come to. -/
def checkDownload (downloadedSize : Nat) (contentLength : Option (Except PyException Int)) : Except PyException Unit :=
  if downloadedSize = 0 then .error ⟨.other "OSError", "Incomplete source download"⟩
  else
    match contentLength with
    | none => .ok ()
    | some (.error error) => .error error
    | some (.ok expectedSize) =>
      if (downloadedSize : Int) ≠ expectedSize then .error ⟨.other "OSError", "Incomplete source download"⟩ else .ok ()

/-- The `try` of `ensure_local` from the opening of the URL on. -/
def downloadThrough (sourceUrl : String) (destination part : Path) : FileScript Path := do
  Script.andFinally (do
      let response ← (FileRequest.openUrl sourceUrl).send
      let downloadedSize ← copyChunks part 0 response.reads
      Script.lift (checkDownload downloadedSize response.contentLength))
    (FileRequest.close part).send
  (FileRequest.replace part destination).send
  return destination

def ensureLocal (source : SourcePartition) (root : Path) : FileScript Path := do
  let destination ← Script.lift (underLanding "Download must stay under data/landing" root source.landingPath)
  if ← (FileRequest.pathExists destination).send then return destination
  else
    (FileRequest.mkdir destination.dropLast).send
    let part ← (FileRequest.createPartial destination).send
    (downloadThrough source.sourceUrl destination part).andFinally (FileRequest.unlink part).send

/-- The check of `materialize`: `size != file_size_bytes or file_sha256(partial) != checksum_sha256`. -/
def StorageSetup.checkObject (setup : StorageSetup) (part : Path) (checksum : Digest) (fileSize : Int) (size : Nat) :
    FileScript Unit :=
  let failed := storageIntegrityError "materialized S3 object failed SHA-256 or size check"
  if (size : Int) ≠ fileSize then Script.raise failed
  else do
    match ← (FileRequest.readBytes part).send with
    | none => Script.raise (fileNotFound part)
    | some content => if setup.readers.sha256 content ≠ checksum then Script.raise failed else return

/-- The `try` of `materialize` from the reading of the body on. -/
def StorageSetup.materializeThrough (setup : StorageSetup) (destination part : Path) (checksum : Digest)
    (fileSize : Int) (body : StreamReads) : FileScript Path := do
  let size ← (copyChunks part 0 body).andFinally (FileRequest.close part).send
  setup.checkObject part checksum fileSize size
  (FileRequest.replace part destination).send
  return destination

/-- `S3LandingStorage.materialize`. -/
def StorageSetup.materialize (setup : StorageSetup) (storageUri : Option String) (destination : Path)
    (checksum : Digest) (fileSize : Int) : FileScript Path := do
  if ← (FileRequest.pathExists destination).send then
    let file ← (FileRequest.readBytes destination).send
    let _ ← Script.lift (verifyLocal setup.readers file checksum)
    return destination
  else
    let (bucket, key) ← Script.lift (parseS3Uri storageUri)
    if bucket ≠ setup.bucket then
      Script.raise (storageIntegrityError "storage URI bucket does not match configuration")
    else
      (FileRequest.mkdir destination.dropLast).send
      let body ← (FileRequest.getObject key).send
      let part ← (FileRequest.createPartial destination).send
      (setup.materializeThrough destination part checksum fileSize body).andFinally (FileRequest.unlink part).send

/-- The files of one machine. -/
abbrev Files := Path → Option Bytes

/-- What the environment adds to one request: a fault that is raised, of a write after some bytes, the random
    part of a name, and the answers of the network. -/
structure FileEvent where
  fault : Option (PyException × Nat)
  token : List Char
  reads : StreamReads
  response : Response

/-- `NamedTemporaryFile(dir=destination.parent, prefix=f"{destination.name}.", suffix=".part")`. -/
def partialPath (destination : Path) (token : List Char) : Path :=
  destination.dropLast ++ [destination.getLast?.getD [] ++ '.' :: (token ++ ".part".toList)]

def Files.write (files : Files) (path : Path) (chunk : Bytes) : Files :=
  match files path with
  | some content => Function.update files path (some (content ++ chunk))
  | none => files

/-- A request that raises leaves the files, but for a write that breaks off. -/
def FileRequest.broken (error : PyException) (written : Nat) :
    (request : FileRequest) → Attempt Files PyException request.Answer
  | .write path chunk => fun files => (.error error, files.write path (chunk.take written))
  | _ => fun files => (.error error, files)

def FileRequest.answered (event : FileEvent) : (request : FileRequest) → Attempt Files PyException request.Answer
  | .pathExists path => fun files => (.ok (files path).isSome, files)
  | .readBytes path => fun files => (.ok (files path), files)
  | .mkdir _ | .close _ => fun files => (.ok (), files)
  | .getObject _ => fun files => (.ok event.reads, files)
  | .openUrl _ => fun files => (.ok event.response, files)
  | .createPartial destination => fun files =>
    let part := partialPath destination event.token
    match files part with
    | some _ => (.error ⟨.other "FileExistsError", "No usable temporary file name found"⟩, files)
    | none => (.ok part, Function.update files part (some []))
  | .write path chunk => fun files => (.ok (), files.write path chunk)
  | .replace source target => fun files =>
    match files source with
    | none => (.error (fileNotFound source), files)
    | some content => (.ok (), Function.update (Function.update files target (some content)) source none)
  | .unlink path => fun files => (.ok (), Function.update files path none)

/-- What one request does to the files, and its answer. -/
def FileRequest.perform (event : FileEvent) (request : FileRequest) : Attempt Files PyException request.Answer :=
  match event.fault with
  | some (error, written) => request.broken error written
  | none => request.answered event

theorem partialPath_ne (destination : Path) (token : List Char) : partialPath destination token ≠ destination := by
  intro same
  have lengths := congrArg (fun path : Path => (path.getLast?.getD []).length) same
  simp only [partialPath, List.getLast?_concat, Option.getD_some, List.length_append, List.length_cons] at lengths
  omega

end TaxiPipeline
