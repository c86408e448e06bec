import TaxiPipeline.Downloads.Steps

namespace TaxiPipeline

open ObjectStore Stateful

/-- What an undisturbed request meets: the newest version of a key, in chunks, and no fault of the file system. -/
def undisturbed (bucket : S3Bucket) (chunks : Bytes → List Bytes) (token : List Char)
    (upstream : String → Except PyException Response) : FileRequest → FileEvent
  | .getObject key =>
    match bucket.latest key with
    | some object => ⟨none, token, (chunks object.body).map .ok, ⟨none, []⟩⟩
    | none => ⟨some (⟨.other "ClientError", "The specified key does not exist."⟩, 0), token, [], ⟨none, []⟩⟩
  | .openUrl url =>
    match upstream url with
    | .ok response => ⟨none, token, [], response⟩
    | .error error => ⟨some (error, 0), token, [], ⟨none, []⟩⟩
  | _ => ⟨none, token, [], ⟨none, []⟩⟩

def serve (bucket : S3Bucket) (chunks : Bytes → List Bytes) (token : List Char)
    (upstream : String → Except PyException Response) (request : FileRequest) :
    Attempt Files PyException request.Answer :=
  request.perform (undisturbed bucket chunks token upstream request)

/-- A way to cut a body into the chunks that its reads give. -/
def IsChunking (chunks : Bytes → List Bytes) : Prop :=
  ∀ body, (chunks body).flatten = body ∧ ∀ chunk ∈ chunks body, chunk ≠ []

theorem isChunking_bytes : IsChunking (·.map ([·])) := by
  intro body
  refine ⟨List.flatMap_def.symm.trans (List.flatMap_singleton' body), fun chunk member => ?_⟩
  obtain ⟨byte, -, rfl⟩ := List.mem_map.mp member
  exact List.cons_ne_nil _ _

section Served

variable {setup : StorageSetup} {bucket : S3Bucket} {chunks : Bytes → List Bytes} {token : List Char}
  {upstream : String → Except PyException Response} {files : Files} {part destination : Path}

theorem serve_write {content : Bytes} (chunk : Bytes) (there : files part = some content) :
    serve bucket chunks token upstream (.write part chunk) files =
      (.ok (), Function.update files part (some (content ++ chunk))) := by
  show (Except.ok (), files.write part chunk) = _
  simp only [Files.write, there]

theorem serve_replace {content : Bytes} (there : files part = some content) :
    serve bucket chunks token upstream (.replace part destination) files =
      (.ok (), Function.update (Function.update files destination (some content)) part none) := by
  show (FileRequest.replace part destination).answered ⟨none, token, [], ⟨none, []⟩⟩ files = _
  simp only [FileRequest.answered, there]

theorem serve_createPartial (unused : files (partialPath destination token) = none) :
    serve bucket chunks token upstream (.createPartial destination) files =
      (.ok (partialPath destination token), Function.update files (partialPath destination token) (some [])) := by
  show (FileRequest.createPartial destination).answered ⟨none, token, [], ⟨none, []⟩⟩ files = _
  simp only [FileRequest.answered, unused]

theorem serve_getObject {key : String} {object : S3Object} (found : bucket.latest key = some object) :
    serve bucket chunks token upstream (.getObject key) files = (.ok ((chunks object.body).map .ok), files) := by
  have event : undisturbed bucket chunks token upstream (.getObject key) =
      ⟨none, token, (chunks object.body).map .ok, ⟨none, []⟩⟩ := by
    simp only [undisturbed, found]
  rw [serve, event]
  rfl

theorem serve_pathExists {found : Bool} (is_found : (files destination).isSome = found) :
    serve bucket chunks token upstream (.pathExists destination) files = (.ok found, files) :=
  is_found ▸ rfl

theorem serve_readBytes {file : Option Bytes} (holds : files part = file) :
    serve bucket chunks token upstream (.readBytes part) files = (.ok file, files) :=
  holds ▸ rfl

theorem serve_mkdir : serve bucket chunks token upstream (.mkdir part) files = (.ok (), files) := rfl

theorem copyChunks_served {written : Bytes} (size : Nat) (pieces : List Bytes) (nonempty : ∀ chunk ∈ pieces, chunk ≠ [])
    (there : files part = some written) :
    (copyChunks part size (pieces.map .ok)).eval (serve bucket chunks token upstream) files =
      (.ok (size + pieces.flatten.length), Function.update files part (some (written ++ pieces.flatten))) := by
  induction pieces generalizing size written files with
  | nil =>
    rw [List.flatten_nil, List.append_nil, List.length_nil, Nat.add_zero, ← there, Function.update_eq_self]
    rfl
  | cons chunk rest ih =>
    have first : (chunk :: rest).map Except.ok = (Except.ok chunk : Except PyException Bytes) :: rest.map .ok := rfl
    rw [first, copyChunks, if_neg (nonempty chunk List.mem_cons_self)]
    refine (Script.eval_ask (serve_write chunk there)).trans ?_
    refine (ih (size + chunk.length) (fun other member => nonempty other (List.mem_cons_of_mem _ member))
      (Function.update_self ..)).trans ?_
    rw [Function.update_idem, List.flatten_cons, List.length_append, Nat.add_assoc, List.append_assoc]

theorem materializeThrough_served {pieces : List Bytes} {body : Bytes} {checksum : Digest} {fileSize : Int}
    (whole : pieces.flatten = body) (nonempty : ∀ chunk ∈ pieces, chunk ≠ []) (sized : (body.length : Int) = fileSize)
    (hashed : setup.readers.sha256 body = checksum) (created : files part = some []) :
    (setup.materializeThrough destination part checksum fileSize (pieces.map .ok)).eval
        (serve bucket chunks token upstream) files =
      (.ok destination, Function.update (Function.update (Function.update files part (some body)) destination
        (some body)) part none) := by
  have copied := @copyChunks_served bucket chunks token upstream files part [] 0 pieces nonempty created
  rw [Nat.zero_add, List.nil_append, whole] at copied
  have there : Function.update files part (some body) part = some body := Function.update_self ..
  generalize Function.update files part (some body) = written at copied there
  have closed : ((copyChunks part 0 (pieces.map .ok)).andFinally (FileRequest.close part).send).eval
      (serve bucket chunks token upstream) files = (.ok body.length, written) :=
    Script.eval_andFinally_ok copied rfl
  have checked : (setup.checkObject part checksum fileSize body.length).eval (serve bucket chunks token upstream)
      written = (.ok (), written) := by
    unfold StorageSetup.checkObject
    rw [if_neg (not_not.mpr sized)]
    refine (Script.eval_ask (serve_readBytes there)).trans ?_
    show (if setup.readers.sha256 body ≠ checksum then _ else _ : FileScript Unit).eval _ _ = _
    rw [if_neg (not_not.mpr hashed)]
    rfl
  unfold StorageSetup.materializeThrough
  refine (Script.eval_bind_ok closed).trans ?_
  refine (Script.eval_bind_ok checked).trans ?_
  refine (Script.eval_ask (serve_replace there)).trans ?_
  rfl

/-- Undisturbed, the object of the right size and checksum comes to the destination, and nothing else changes. -/
theorem materialize_served (chunked : IsChunking chunks) {storageUri : Option String} {key : String}
    {object : S3Object} {checksum : Digest} {fileSize : Int} (parsed : parseS3Uri storageUri = .ok (setup.bucket, key))
    (found : bucket.latest key = some object) (sized : (object.body.length : Int) = fileSize)
    (hashed : setup.readers.sha256 object.body = checksum) (absent : files destination = none)
    (unused : files (partialPath destination token) = none) :
    (setup.materialize storageUri destination checksum fileSize).eval (serve bucket chunks token upstream) files =
      (.ok destination, Function.update files destination (some object.body)) := by
  obtain ⟨whole, nonempty⟩ := chunked object.body
  refine (Script.eval_ask (serve_pathExists (congrArg Option.isSome absent))).trans ?_
  show (Script.lift (parseS3Uri storageUri) >>= _).eval _ _ = _
  rw [parsed]
  show (if setup.bucket ≠ setup.bucket then _ else _ : FileScript Path).eval _ _ = _
  rw [if_neg (not_not.mpr rfl)]
  refine (Script.eval_ask serve_mkdir).trans ?_
  refine (Script.eval_ask (serve_getObject found)).trans ?_
  refine (Script.eval_ask (serve_createPartial unused)).trans ?_
  generalize is_part : partialPath destination token = part at unused
  have apart : part ≠ destination := is_part ▸ partialPath_ne destination token
  have through := @materializeThrough_served setup bucket chunks token upstream (Function.update files part (some []))
    part destination _ _ _ _ whole nonempty sized hashed (Function.update_self ..)
  generalize is_placed : Function.update (Function.update (Function.update files part (some []))
    part (some object.body)) destination (some object.body) = placed at through
  have removed : ((FileRequest.unlink part).send).eval (serve bucket chunks token upstream)
      (Function.update placed part none) = (.ok (), Function.update (Function.update placed part none) part none) := rfl
  refine (Script.eval_andFinally_ok through removed).trans (congrArg (Prod.mk _) ?_)
  funext path
  rw [Function.update_idem, ← is_placed]
  by_cases isPart : path = part
  · rw [isPart, Function.update_self, Function.update_of_ne apart, unused]
  · by_cases isDestination : path = destination
    · rw [isDestination, Function.update_of_ne apart.symm, Function.update_self, Function.update_self]
    · rw [Function.update_of_ne isPart, Function.update_of_ne isDestination, Function.update_of_ne isDestination,
        Function.update_of_ne isPart, Function.update_of_ne isPart]

end Served

/-- An environment with a fault or an answer of its own for every request, and no other program in it. -/
def alone (events : Nat → FileEvent) (request : FileRequest) : Attempt (Files × Nat) PyException request.Answer :=
  fun (files, turn) =>
    let (answer, files') := request.perform (events turn) files
    (answer, (files', turn + 1))

/-- Alone, a download ends as its rules say, and what it knows of the files is so. -/
theorem follows_alone {destination : Path} {accepts : Announced → Bytes → Prop} {own : Own} {script : FileScript Path}
    {post : Except PyException Path → Own → Prop} {files : Files} (events : Nat → FileEvent) (turn : Nat)
    (follows : script.Follows (fileRules destination accepts) own post) (view : own.View destination files)
    (shows : own.Shows destination files) :
    ∃ own', post (script.eval (alone events) (files, turn)).1 own' ∧
      own'.Shows destination (script.eval (alone events) (files, turn)).2.1 := by
  have keeps : ∀ (own : Own) (s : Files × Nat) (request : FileRequest),
      (own.View destination s.1 ∧ own.Shows destination s.1) → own.Allows destination accepts request →
        ∃ own', (fileRules destination accepts).effect own request (alone events request s).1 own' ∧
          own'.View destination (alone events request s).2.1 ∧ own'.Shows destination (alone events request s).2.1 := by
    rintro own ⟨files, turn⟩ request ⟨view, shows⟩ allowed
    obtain ⟨own', moves⟩ := Own.moves (events turn) allowed view
    exact ⟨own', moves.effect, moves.view, moves.shows shows⟩
  have start : own.View destination (files, turn).1 ∧ own.Shows destination (files, turn).1 := ⟨view, shows⟩
  obtain ⟨own', ends, -, after⟩ := follows.eval keeps start
  exact ⟨own', ends, after⟩

/-- Whenever `materialize` returns, the destination is there with the registered checksum. -/
theorem materialize_returns {setup : StorageSetup} {storageUri : Option String} {destination path : Path}
    {checksum : Digest} {fileSize : Int} {events : Nat → FileEvent} {files files' : Files} {turn turn' : Nat}
    (returned : (setup.materialize storageUri destination checksum fileSize).eval (alone events) (files, turn) =
      (.ok path, (files', turn'))) :
    path = destination ∧ ∃ content, files' destination = some content ∧ setup.readers.sha256 content = checksum := by
  have follows := @materialize_follows setup destination checksum fileSize storageUri
  obtain ⟨own, ends, shows⟩ := @follows_alone destination _ _ _ _ files events turn follows True.intro True.intro
  rw [returned] at ends shows
  obtain ⟨isDestination, ⟨file, rfl, content, rfl, hashed⟩ | ⟨part, content, announced, rfl, accepted⟩⟩ := ends
  · exact ⟨isDestination, content, shows content rfl, hashed⟩
  · exact ⟨isDestination, content, shows, accepted.2⟩

end TaxiPipeline
