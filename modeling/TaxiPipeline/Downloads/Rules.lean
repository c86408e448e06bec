import TaxiPipeline.Model.Downloads

namespace TaxiPipeline

open Stateful

/-- A `Content-Length` that may have been announced: whether there was a response, and what it said. -/
abbrev Announced := Option (Option (Except PyException Int))

/-- What a download has done to the directory of its destination, as it knows it. -/
inductive Own where
  | idle
  | reuses (checked : Option Bytes)
  | absent
  | holds (part : Path) (content : Bytes) (announced : Announced)
  | placed (part : Path) (content : Bytes) (announced : Announced)
  | cleared
  | stuck (part : Path)

/-- What a download may ask for. It replaces its destination only by a file of its own that it accepts, and
    only if it has not found a file there. -/
def Own.Allows (destination : Path) (accepts : Announced → Bytes → Prop) : Own → FileRequest → Prop
  | .idle, .pathExists path => path = destination
  | .reuses _, .readBytes path => path = destination
  | .absent, .mkdir _ | .absent, .getObject _ => True
  | .absent, .createPartial path => path = destination
  | .holds _ _ _, .openUrl _ => True
  | .holds part _ _, .write path _ | .holds part _ _, .close path | .holds part _ _, .readBytes path
  | .holds part _ _, .unlink path => path = part
  | .holds part content announced, .replace source target =>
    source = part ∧ target = destination ∧ accepts announced content
  | .placed part _ _, .unlink path => path = part
  | _, _ => False

/-- What a request that raises leaves of the download. -/
def Own.Raised : Own → FileRequest → Own → Prop
  | .holds part content announced, .write _ chunk, own' =>
    ∃ written, own' = .holds part (content ++ chunk.take written) announced
  | .holds part _ _, .unlink _, own' | .placed part _ _, .unlink _, own' => own' = .stuck part
  | own, _, own' => own' = own

/-- What an answered request makes of the download. -/
def Own.Answered (accepts : Announced → Bytes → Prop) (own : Own) :
    (request : FileRequest) → request.Answer → Own → Prop
  | .pathExists _, found, own' => own' = if found then .reuses none else .absent
  | .readBytes _, file, own' =>
    match own with
    | .holds _ content _ => file = some content ∧ own' = own
    | _ => own' = .reuses file
  | .createPartial destination, part, own' =>
    (∃ token, part = partialPath destination token) ∧ own' = .holds part [] none
  | .openUrl _, response, own' => ∀ part content announced, own = .holds part content announced →
    own' = .holds part content (some response.contentLength)
  | .write _ chunk, (), own' => ∀ part content announced, own = .holds part content announced →
    own' = .holds part (content ++ chunk) announced
  | .replace _ _, (), own' => ∀ part content announced, own = .holds part content announced →
    own' = .placed part content announced ∧ accepts announced content
  | .unlink _, (), own' =>
    match own with
    | .holds _ _ _ => own' = .cleared
    | _ => own' = own
  | .mkdir _, _, own' | .getObject _, _, own' | .close _, _, own' => own' = own

/-- The rules that a download keeps to. -/
def fileRules (destination : Path) (accepts : Announced → Bytes → Prop) :
    Script.Rules FileRequest.Answer PyException Own where
  allowed := Own.Allows destination accepts
  effect := fun own request answer own' => match answer with
    | .ok answer => own.Answered accepts request answer own'
    | .error _ => own.Raised request own'

/-- How a download ends: with the file that it found or placed, or with nothing of its own left unless the
    removal of its partial file raised. -/
def Own.Ends (destination : Path) (checks : Option Bytes → Prop) (accepts : Announced → Bytes → Prop) :
    Except PyException Path → Own → Prop
  | .ok path, own => path = destination ∧ ((∃ file, own = .reuses file ∧ checks file) ∨
      ∃ part content announced, own = .placed part content announced ∧ accepts announced content)
  | .error _, own => own = .idle ∨ (∃ file, own = .reuses file) ∨ own = .absent ∨ own = .cleared ∨
      ∃ part, own = .stuck part

/-- `materialize` accepts what has the registered size and checksum. -/
def StorageSetup.AcceptsObject (setup : StorageSetup) (checksum : Digest) (fileSize : Int) (_ : Announced)
    (content : Bytes) : Prop :=
  (content.length : Int) = fileSize ∧ setup.readers.sha256 content = checksum

/-- `ensure_local` accepts what is not empty and has the announced length, if one was announced. -/
def AcceptsDownload (announced : Announced) (content : Bytes) : Prop :=
  content ≠ [] ∧ ∃ header, announced = some header ∧
    ∀ expected, header = some expected → expected = .ok (content.length : Int)

/-- A file with the given checksum. -/
def StorageSetup.HasChecksum (setup : StorageSetup) (checksum : Digest) (file : Option Bytes) : Prop :=
  ∃ content, file = some content ∧ setup.readers.sha256 content = checksum

section Parts

variable {destination part : Path} {accepts : Announced → Bytes → Prop} {content : Bytes} {announced : Announced}

/-- How the copying of a stream ends: with some of it in the partial file, and all of that counted. -/
def Own.Copied (part : Path) (content : Bytes) (announced : Announced) (size : Nat) :
    Except PyException Nat → Own → Prop
  | .ok total, own => ∃ added, own = .holds part (content ++ added) announced ∧ total = size + added.length
  | .error _, own => ∃ added, own = .holds part (content ++ added) announced

theorem copyChunks_follows (size : Nat) (reads : StreamReads) :
    (copyChunks part size reads).Follows (fileRules destination accepts) (.holds part content announced)
      (Own.Copied part content announced size) := by
  have stays : Own.holds part content announced = .holds part (content ++ []) announced := by rw [List.append_nil]
  induction reads generalizing content size with
  | nil => exact ⟨[], stays, rfl⟩
  | cons read reads ih =>
    cases read with
    | error error => exact ⟨[], stays⟩
    | ok chunk =>
      rw [copyChunks]
      split
      · exact ⟨[], stays, rfl⟩
      · refine .bind (Script.follows_request rfl fun answer own' effect => ?_)
        cases answer with
        | error error =>
          obtain ⟨written, rfl⟩ := effect
          exact ⟨_, rfl⟩
        | ok written =>
          rw [effect part content announced rfl]
          refine (ih (size + chunk.length) (by rw [List.append_nil])).mono fun result own' ends => ?_
          cases result with
          | error error =>
            obtain ⟨added, rfl⟩ := ends
            exact ⟨chunk ++ added, by rw [List.append_assoc]⟩
          | ok total =>
            obtain ⟨added, rfl, rfl⟩ := ends
            refine ⟨chunk ++ added, by rw [List.append_assoc], ?_⟩
            rw [List.length_append, Nat.add_assoc]

/-- How the `try` of a download ends, before its partial file is removed. -/
def Own.Through (destination part : Path) (accepts : Announced → Bytes → Prop) : Except PyException Path → Own → Prop
  | .ok path, own => path = destination ∧
      ∃ content announced, own = .placed part content announced ∧ accepts announced content
  | .error _, own => ∃ content announced, own = .holds part content announced

theorem replace_follows (accepted : accepts announced content) :
    ((do (FileRequest.replace part destination).send; return destination) : FileScript Path).Follows
      (fileRules destination accepts) (.holds part content announced) (Own.Through destination part accepts) := by
  refine .bind (Script.follows_request ⟨rfl, rfl, accepted⟩ fun answer own' effect => ?_)
  cases answer with
  | error error => exact ⟨content, announced, effect⟩
  | ok replaced =>
    obtain ⟨rfl, -⟩ := effect part content announced rfl
    exact ⟨rfl, content, announced, rfl, accepted⟩

/-- The partial file is still there, with what a step that returned promises of it. -/
def Own.Holding {α : Type} (part : Path) (good : α → Bytes → Announced → Prop) : Except PyException α → Own → Prop
  | .ok a, own => ∃ content announced, own = .holds part content announced ∧ good a content announced
  | .error _, own => ∃ content announced, own = .holds part content announced

theorem close_follows {α : Type} {good : α → Bytes → Announced → Prop} {body : FileScript α} {own : Own}
    (follows : body.Follows (fileRules destination accepts) own (Own.Holding part good)) :
    (body.andFinally (FileRequest.close part).send).Follows (fileRules destination accepts) own
      (Own.Holding part good) := by
  refine .andFinally (follows.mono fun result own' holding => ?_)
  cases result with
  | ok a =>
    obtain ⟨content, announced, rfl, promised⟩ := holding
    refine Script.follows_request rfl fun answer own'' effect => ?_
    cases answer with
    | error error => exact ⟨content, announced, effect⟩
    | ok closed => exact ⟨content, announced, effect, promised⟩
  | error error =>
    obtain ⟨content, announced, rfl⟩ := holding
    refine Script.follows_request rfl fun answer own'' effect => ?_
    cases answer <;> exact ⟨content, announced, effect⟩

/-- A stream that is copied into an empty file is counted byte by byte. -/
theorem copyAll_follows (reads : StreamReads) :
    (copyChunks part 0 reads).Follows (fileRules destination accepts) (.holds part [] announced)
      (Own.Holding part fun size content announced' => size = content.length ∧ announced' = announced) := by
  refine (copyChunks_follows 0 reads).mono fun result own copied => ?_
  cases result with
  | error error =>
    obtain ⟨added, rfl⟩ := copied
    exact ⟨_, _, rfl⟩
  | ok total =>
    obtain ⟨added, rfl, rfl⟩ := copied
    exact ⟨_, _, rfl, Nat.zero_add _, rfl⟩

theorem unlink_follows {checks : Option Bytes → Prop} {body : FileScript Path} {own : Own}
    (follows : body.Follows (fileRules destination accepts) own (Own.Through destination part accepts)) :
    (body.andFinally (FileRequest.unlink part).send).Follows (fileRules destination accepts) own
      (Own.Ends destination checks accepts) := by
  refine .andFinally (follows.mono fun result own' through => ?_)
  cases result with
  | ok path =>
    obtain ⟨rfl, content, announced, rfl, accepted⟩ := through
    refine Script.follows_request rfl fun answer own'' effect => ?_
    cases answer with
    | error error => exact .inr (.inr (.inr (.inr ⟨part, effect⟩)))
    | ok removed => exact ⟨rfl, .inr ⟨part, content, announced, effect, accepted⟩⟩
  | error error =>
    obtain ⟨content, announced, rfl⟩ := through
    refine Script.follows_request rfl fun answer own'' effect => ?_
    cases answer with
    | error other => exact .inr (.inr (.inr (.inr ⟨part, effect⟩)))
    | ok removed => exact .inr (.inr (.inr (.inl effect)))

end Parts

section Materialize

variable {setup : StorageSetup} {destination part : Path} {checksum : Digest} {fileSize : Int}

theorem materializeThrough_follows (body : StreamReads) :
    (setup.materializeThrough destination part checksum fileSize body).Follows
      (fileRules destination (setup.AcceptsObject checksum fileSize)) (.holds part [] none)
      (Own.Through destination part (setup.AcceptsObject checksum fileSize)) := by
  refine .bind ((close_follows (copyAll_follows body)).mono fun result own' copied => ?_)
  cases result with
  | error error => exact copied
  | ok size =>
    obtain ⟨content, announced, rfl, counted, rfl⟩ := copied
    refine .bind ?_
    unfold StorageSetup.checkObject
    split
    · exact ⟨content, none, rfl⟩
    · rename_i sized
      refine .bind (Script.follows_request rfl fun answer own'' effect => ?_)
      cases answer with
      | error error =>
        cases effect
        exact ⟨content, none, rfl⟩
      | ok file =>
        obtain ⟨rfl, rfl⟩ := effect
        dsimp only
        split
        · exact ⟨content, none, rfl⟩
        · rename_i hashed
          exact replace_follows ⟨counted ▸ not_not.mp sized, not_not.mp hashed⟩

theorem materialize_follows (storageUri : Option String) :
    (setup.materialize storageUri destination checksum fileSize).Follows
      (fileRules destination (setup.AcceptsObject checksum fileSize)) .idle
      (Own.Ends destination (setup.HasChecksum checksum) (setup.AcceptsObject checksum fileSize)) := by
  refine .bind (Script.follows_request rfl fun answer own' effect => ?_)
  cases answer with
  | error error => exact .inl effect
  | ok found =>
    cases found with
    | true =>
      cases effect
      refine .bind (Script.follows_request rfl fun answer own' effect => ?_)
      cases answer with
      | error error => exact .inr (.inl ⟨none, effect⟩)
      | ok file =>
        cases effect
        refine Script.follows_lift (fun content verified => ?_) fun error _ => .inr (.inl ⟨file, rfl⟩)
        obtain ⟨there, hashed⟩ := verifyLocal_ok.mp verified
        exact ⟨rfl, .inl ⟨file, rfl, content, there, hashed⟩⟩
    | false =>
      obtain rfl : own' = .absent := effect
      refine Script.follows_lift (fun location _ => ?_) fun error _ => .inr (.inr (.inl rfl))
      dsimp only
      split
      · exact .inr (.inr (.inl rfl))
      · refine .bind (Script.follows_request True.intro fun answer own' effect => ?_)
        cases answer with
        | error error => exact .inr (.inr (.inl effect))
        | ok made =>
          cases effect
          refine .bind (Script.follows_request True.intro fun answer own' effect => ?_)
          cases answer with
          | error error => exact .inr (.inr (.inl effect))
          | ok body =>
            cases effect
            refine .bind (Script.follows_request rfl fun answer own' effect => ?_)
            cases answer with
            | error error => exact .inr (.inr (.inl effect))
            | ok part =>
              rw [effect.2]
              exact unlink_follows (materializeThrough_follows body)

end Materialize

section EnsureLocal

variable {source : SourcePartition} {root destination part : Path}

theorem checkDownload_ok {size : Nat} {contentLength : Option (Except PyException Int)}
    (checked : checkDownload size contentLength = .ok ()) :
    size ≠ 0 ∧ ∀ expected, contentLength = some expected → expected = .ok (size : Int) := by
  unfold checkDownload at checked
  split at checked
  · cases checked
  · rename_i nonempty
    refine ⟨nonempty, ?_⟩
    rintro expected rfl
    cases expected with
    | error error => cases checked
    | ok expectedSize =>
      dsimp only at checked
      split at checked
      · cases checked
      · rename_i same
        rw [not_not.mp same]

theorem downloadThrough_follows (sourceUrl : String) :
    (downloadThrough sourceUrl destination part).Follows (fileRules destination AcceptsDownload) (.holds part [] none)
      (Own.Through destination part AcceptsDownload) := by
  have accepted : ∀ {own}, own = .holds part [] none → (do
      let response ← (FileRequest.openUrl sourceUrl).send
      let downloadedSize ← copyChunks part 0 response.reads
      Script.lift (checkDownload downloadedSize response.contentLength) : FileScript Unit).Follows
        (fileRules destination AcceptsDownload) own
        (Own.Holding part fun _ content announced => AcceptsDownload announced content) := by
    rintro _ rfl
    refine .bind (Script.follows_request True.intro fun answer own' effect => ?_)
    cases answer with
    | error error => exact ⟨[], none, effect⟩
    | ok response =>
      rw [effect part [] none rfl]
      refine .bind ((copyAll_follows response.reads).mono fun result own'' copied => ?_)
      cases result with
      | error error => exact copied
      | ok size =>
        obtain ⟨content, announced, rfl, counted, rfl⟩ := copied
        show Own.Holding part _ (checkDownload size response.contentLength) _
        cases checked : checkDownload size response.contentLength with
        | error error => exact ⟨content, _, rfl⟩
        | ok done =>
          obtain ⟨nonempty, lengths⟩ := checkDownload_ok checked
          subst counted
          exact ⟨content, _, rfl, fun empty => nonempty (congrArg List.length empty), _, rfl, lengths⟩
  refine .bind ((close_follows (accepted rfl)).mono fun result own' holding => ?_)
  cases result with
  | error error => exact holding
  | ok done =>
    obtain ⟨content, announced, rfl, promised⟩ := holding
    exact replace_follows promised

theorem ensureLocal_follows (placed : underLanding "Download must stay under data/landing" root source.landingPath =
    .ok destination) :
    (ensureLocal source root).Follows (fileRules destination AcceptsDownload) .idle
      (Own.Ends destination (fun _ => True) AcceptsDownload) := by
  refine Script.follows_lift (fun path same => ?_) fun error _ => .inl rfl
  cases placed.symm.trans same
  refine .bind (Script.follows_request rfl fun answer own' effect => ?_)
  cases answer with
  | error error => exact .inl effect
  | ok found =>
    cases found with
    | true => exact ⟨rfl, .inl ⟨none, effect, True.intro⟩⟩
    | false =>
      obtain rfl : own' = .absent := effect
      refine .bind (Script.follows_request True.intro fun answer own' effect => ?_)
      cases answer with
      | error error => exact .inr (.inr (.inl effect))
      | ok made =>
        cases effect
        refine .bind (Script.follows_request rfl fun answer own' effect => ?_)
        cases answer with
        | error error => exact .inr (.inr (.inl effect))
        | ok part =>
          rw [effect.2]
          exact unlink_follows (downloadThrough_follows source.sourceUrl)

end EnsureLocal

end TaxiPipeline
