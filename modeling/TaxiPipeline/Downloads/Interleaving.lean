import TaxiPipeline.Downloads.Steps
import TaxiPipeline.Stateful.Interleaving

namespace TaxiPipeline

open Stateful

/-- A call that brings a file to a landing path. -/
inductive DownloadCall where
  | ensureLocal (source : SourcePartition) (root : Path)
  | materialize (setup : StorageSetup) (storageUri : Option String) (destination : Path) (checksum : Digest)
      (fileSize : Int)

namespace DownloadCall

def script : DownloadCall → FileScript Path
  | .ensureLocal source root => TaxiPipeline.ensureLocal source root
  | .materialize setup storageUri destination checksum fileSize =>
    setup.materialize storageUri destination checksum fileSize

def destination : DownloadCall → Except PyException Path
  | .ensureLocal source root => underLanding "Download must stay under data/landing" root source.landingPath
  | .materialize _ _ destination _ _ => .ok destination

/-- The check of the call, with the `Content-Length` that it has got. -/
def Accepts : DownloadCall → Announced → Bytes → Prop
  | .ensureLocal _ _ => AcceptsDownload
  | .materialize setup _ _ checksum fileSize => setup.AcceptsObject checksum fileSize

/-- What the call asks of a file that is there already. -/
def Reuses : DownloadCall → Option Bytes → Prop
  | .ensureLocal _ _ => fun _ => True
  | .materialize setup _ _ checksum _ => setup.HasChecksum checksum

theorem follows {call : DownloadCall} {destination : Path} (same : call.destination = .ok destination) :
    call.script.Follows (fileRules destination call.Accepts) .idle
      (Own.Ends destination call.Reuses call.Accepts) := by
  cases call with
  | ensureLocal source root => exact ensureLocal_follows same
  | materialize setup storageUri destination' checksum fileSize =>
    cases same
    exact materialize_follows storageUri

end DownloadCall

abbrev FileEntry (Client : Type) : Type := Entry Client FileRequest.Answer PyException

/-- Downloads on one machine. -/
abbrev Downloads (Client : Type) : Type := Machine Client Files FileRequest.Answer PyException Path

section Log

variable {Client : Type}

def FileEntry.created : FileEntry Client → Option Path
  | ⟨_, .createPartial _, .ok part⟩ => some part
  | _ => none

def FileEntry.announced : FileEntry Client → Announced
  | ⟨_, .openUrl _, .ok response⟩ => some response.contentLength
  | _ => none

def FileEntry.replaced : FileEntry Client → Bool
  | ⟨_, .replace _ _, .ok _⟩ => true
  | _ => false

def FileEntry.removalRaised : FileEntry Client → Bool
  | ⟨_, .unlink _, .error _⟩ => true
  | _ => false

/-- No two of the temporary names that have been given are the same. -/
def NamesApart (s : Downloads Client) : Prop := (s.log.filterMap FileEntry.created).Nodup

instance : DecidablePred (@NamesApart Client) := fun _ => inferInstanceAs (Decidable (List.Nodup _))

/-- The call whose replacement was the last. -/
def author (log : List (FileEntry Client)) : Option Client :=
  log.findSome? fun entry => if entry.replaced then some entry.client else none

variable {log : List (FileEntry Client)} {i j : Client} {request : FileRequest}
  {answer : Except PyException request.Answer} {destination : Path} {accepts : Announced → Bytes → Prop} {own own' : Own}

/-- A download that has asked for nothing but its destination. -/
def Own.Untouched : Own → Prop
  | .idle | .reuses _ => True
  | _ => False

theorem Own.Untouched.next {files : Files} {event : FileEvent} (untouched : own.Untouched)
    (there : (files destination).isSome) (allowed : own.Allows destination accepts request)
    (effect : (fileRules destination accepts).effect own request (request.perform event files).1 own') :
    own'.Untouched := by
  cases request with
  | pathExists path =>
    cases own with
    | idle =>
      obtain rfl : path = destination := allowed
      unfold FileRequest.perform at effect
      cases fault : event.fault with
      | some raised =>
        simp only [fault] at effect
        cases effect
        exact True.intro
      | none =>
        simp only [fault] at effect
        have found : own' = if (files path).isSome then .reuses none else .absent := effect
        rw [found, if_pos there]
        exact True.intro
    | _ => exact allowed.elim
  | readBytes path =>
    cases own with
    | reuses checked =>
      generalize ((FileRequest.readBytes path).perform event files).1 = answer at effect
      cases answer <;> cases effect <;> exact True.intro
    | holds _ _ _ => exact untouched.elim
    | _ => exact allowed.elim
  | _ =>
    cases own with
    | idle | reuses _ => exact allowed.elim
    | _ => exact untouched.elim

theorem Own.replaced_of_placed {part : Path} {content : Bytes} {announced : Announced}
    (allowed : (Own.holds part content announced).Allows destination accepts request)
    (effect : (fileRules destination accepts).effect (.holds part content announced) request answer
      (.placed part content announced)) : FileEntry.replaced (⟨i, request, answer⟩ : FileEntry Client) = true := by
  cases request with
  | replace source target =>
    cases answer with
    | error error => cases effect
    | ok replaced => rfl
  | openUrl url =>
    cases answer with
    | error error => cases effect
    | ok response => cases effect part content announced rfl
  | write path chunk =>
    cases answer with
    | error error =>
      obtain ⟨written, same⟩ := effect
      cases same
    | ok written => cases effect part content announced rfl
  | readBytes path =>
    cases answer with
    | error error => cases effect
    | ok file => cases effect.2
  | pathExists _ | mkdir _ | getObject _ | createPartial _ => exact allowed.elim
  | close _ | unlink _ => cases answer <;> cases effect

theorem Own.Moves.destination_kept {files files' : Files}
    (moves : own.Moves destination accepts request files answer own' files')
    (allowed : own.Allows destination accepts request)
    (unreplaced : FileEntry.replaced (⟨i, request, answer⟩ : FileEntry Client) = false) :
    files' destination = files destination := by
  rcases moves.destination with same | ⟨part, content, announced, rfl, rfl, -, -⟩
  · exact same
  · rw [Own.replaced_of_placed allowed moves.effect] at unreplaced
    cases unreplaced

/-- A download that replaces its destination has held what it accepts. -/
theorem Own.replaced_inv (allowed : own.Allows destination accepts request)
    (effect : (fileRules destination accepts).effect own request answer own')
    (replaced : FileEntry.replaced (⟨i, request, answer⟩ : FileEntry Client) = true) :
    ∃ part content announced, own = .holds part content announced ∧ own' = .placed part content announced ∧
      accepts announced content := by
  cases request with
  | replace source target =>
    cases answer with
    | error error => cases replaced
    | ok done =>
      cases own with
      | holds part content announced =>
        obtain ⟨placed, accepted⟩ := effect part content announced rfl
        exact ⟨part, content, announced, rfl, placed, accepted⟩
      | _ => exact allowed.elim
  | _ => cases answer <;> cases replaced

theorem Own.created_inv {part : Path} (allowed : own.Allows destination accepts request)
    (effect : (fileRules destination accepts).effect own request answer own')
    (created : FileEntry.created (⟨i, request, answer⟩ : FileEntry Client) = some part) :
    ∃ token, part = partialPath destination token := by
  cases request with
  | createPartial path =>
    cases answer with
    | error error => cases created
    | ok part' =>
      cases created
      cases own with
      | absent =>
        obtain rfl : path = destination := allowed
        exact effect.1
      | _ => exact allowed.elim
  | _ => cases answer <;> cases created

theorem Own.announced_inv {header : Option (Except PyException Int)} (allowed : own.Allows destination accepts request)
    (given : FileEntry.announced (⟨i, request, answer⟩ : FileEntry Client) = some header) :
    ∃ part content announced, own = .holds part content announced := by
  cases request with
  | openUrl url =>
    cases own with
    | holds part content announced => exact ⟨part, content, announced, rfl⟩
    | _ => exact allowed.elim
  | _ => cases answer <;> cases given

theorem author_cons (entry : FileEntry Client) : author (entry :: log) =
    if entry.replaced then some entry.client else author log := by
  unfold author
  rw [List.findSome?_cons]
  cases entry.replaced <;> rfl

variable [DecidableEq Client]

/-- The partial files of a call. -/
def partials (log : List (FileEntry Client)) (i : Client) : List Path :=
  log.filterMap fun entry => if entry.client = i then entry.created else none

/-- The `Content-Length` that a call has got. -/
def announcedTo (log : List (FileEntry Client)) (i : Client) : Announced :=
  log.findSome? fun entry => if entry.client = i then entry.announced else none

/-- The call has replaced the destination. -/
def hasReplaced (log : List (FileEntry Client)) (i : Client) : Bool :=
  log.any fun entry => entry.client = i && entry.replaced

/-- The removal of the call's partial file has raised. -/
def removalRaised (log : List (FileEntry Client)) (i : Client) : Bool :=
  log.any fun entry => entry.client = i && entry.removalRaised

/-- What the log says of a download. -/
def Own.Logged (log : List (FileEntry Client)) (i : Client) : Own → Prop
  | .idle | .reuses _ | .absent => partials log i = [] ∧ hasReplaced log i = false ∧ announcedTo log i = none
  | .holds part _ announced => partials log i = [part] ∧ hasReplaced log i = false ∧ announcedTo log i = announced
  | .placed part _ announced => partials log i = [part] ∧ announcedTo log i = announced
  | .cleared => (∃ part, partials log i = [part]) ∧ hasReplaced log i = false
  | .stuck part => partials log i = [part] ∧ removalRaised log i = true

theorem partials_cons (entry : FileEntry Client) : partials (entry :: log) i =
    if entry.client = i then entry.created.toList ++ partials log i else partials log i := by
  unfold partials
  rw [List.filterMap_cons]
  split
  · rename_i nothing
    split
    · rename_i mine
      rw [if_pos mine] at nothing
      rw [nothing]
      rfl
    · rfl
  · rename_i part created
    split
    · rename_i mine
      rw [if_pos mine] at created
      rw [created]
      rfl
    · rename_i other
      rw [if_neg other] at created
      cases created

theorem announcedTo_cons (entry : FileEntry Client) : announcedTo (entry :: log) i =
    if entry.client = i then entry.announced.or (announcedTo log i) else announcedTo log i := by
  unfold announcedTo
  rw [List.findSome?_cons]
  split
  · rename_i found given
    split at given
    · rename_i mine
      rw [if_pos mine, given]
      rfl
    · cases given
  · rename_i given
    split at given
    · rename_i mine
      rw [if_pos mine, given]
      rfl
    · rename_i other
      rw [if_neg other]

theorem hasReplaced_cons (entry : FileEntry Client) : hasReplaced (entry :: log) i =
    ((entry.client = i && entry.replaced) || hasReplaced log i) := rfl

theorem removalRaised_cons (entry : FileEntry Client) : removalRaised (entry :: log) i =
    ((entry.client = i && entry.removalRaised) || removalRaised log i) := rfl

theorem Own.Logged.other (logged : own.Logged log i) (apart : j ≠ i) :
    own.Logged (⟨j, request, answer⟩ :: log) i := by
  have files : partials (⟨j, request, answer⟩ :: log) i = partials log i := by rw [partials_cons, if_neg apart]
  have header : announcedTo (⟨j, request, answer⟩ :: log) i = announcedTo log i := by
    rw [announcedTo_cons, if_neg apart]
  have replacement : hasReplaced (⟨j, request, answer⟩ :: log) i = hasReplaced log i := by
    rw [hasReplaced_cons, decide_eq_false apart, Bool.false_and, Bool.false_or]
  have removal : removalRaised (⟨j, request, answer⟩ :: log) i = removalRaised log i := by
    rw [removalRaised_cons, decide_eq_false apart, Bool.false_and, Bool.false_or]
  cases own <;> simp only [Own.Logged, files, header, replacement, removal] at logged ⊢ <;> exact logged

theorem hasReplaced_of_author (last : author log = some i) : hasReplaced log i = true := by
  obtain ⟨entry, member, given⟩ := List.exists_of_findSome?_eq_some last
  split at given
  · rename_i replaced
    cases given
    exact List.any_eq_true.mpr ⟨entry, member, by simp [replaced]⟩
  · cases given

theorem created_of_partials {part : Path} (mine : part ∈ partials log i) : part ∈ log.filterMap FileEntry.created := by
  obtain ⟨entry, member, given⟩ := List.mem_filterMap.mp mine
  split at given
  · exact List.mem_filterMap.mpr ⟨entry, member, given⟩
  · cases given

theorem Own.Logged.part_mem {part : Path} (logged : own.Logged log i) (held : own.part = some part) :
    part ∈ partials log i := by
  cases own with
  | holds _ _ _ | placed _ _ _ | stuck _ =>
    cases held
    rw [logged.1]
    exact List.mem_singleton_self _
  | _ => cases held

/-- The log keeps up with the download. -/
theorem Own.Logged.next (logged : own.Logged log i) (allowed : own.Allows destination accepts request)
    (effect : (fileRules destination accepts).effect own request answer own') :
    own'.Logged (⟨i, request, answer⟩ :: log) i := by
  have nothing : ∀ {entry : FileEntry Client}, entry.client = i → entry.created = none → entry.announced = none →
      entry.replaced = false → entry.removalRaised = false → ∀ own : Own, own.Logged log i →
        own.Logged (entry :: log) i := by
    intro entry mine created announced replaced raised own logged
    cases own <;>
      simpa [Own.Logged, partials_cons, announcedTo_cons, hasReplaced_cons, removalRaised_cons, mine, created,
        announced, replaced, raised] using logged
  cases request with
  | pathExists path =>
    cases own with
    | idle =>
      cases answer with
      | error error =>
        cases effect
        exact nothing rfl rfl rfl rfl rfl _ logged
      | ok found =>
        cases effect
        cases found <;> exact nothing rfl rfl rfl rfl rfl .absent logged
    | _ => exact allowed.elim
  | readBytes path =>
    cases own with
    | reuses checked =>
      cases answer with
      | error error =>
        cases effect
        exact nothing rfl rfl rfl rfl rfl _ logged
      | ok file =>
        cases effect
        exact nothing rfl rfl rfl rfl rfl (.reuses file) logged
    | holds part content announced =>
      cases answer with
      | error error =>
        cases effect
        exact nothing rfl rfl rfl rfl rfl _ logged
      | ok file =>
        obtain ⟨-, rfl⟩ := effect
        exact nothing rfl rfl rfl rfl rfl _ logged
    | _ => exact allowed.elim
  | mkdir path =>
    cases own with
    | absent => cases answer <;> cases effect <;> exact nothing rfl rfl rfl rfl rfl _ logged
    | _ => exact allowed.elim
  | getObject key =>
    cases own with
    | absent => cases answer <;> cases effect <;> exact nothing rfl rfl rfl rfl rfl _ logged
    | _ => exact allowed.elim
  | close path =>
    cases own with
    | holds part content announced => cases answer <;> cases effect <;> exact nothing rfl rfl rfl rfl rfl _ logged
    | _ => exact allowed.elim
  | createPartial path =>
    cases own with
    | absent =>
      cases answer with
      | error error =>
        cases effect
        exact nothing rfl rfl rfl rfl rfl _ logged
      | ok part =>
        obtain ⟨-, rfl⟩ := effect
        obtain ⟨files, unreplaced, unannounced⟩ := logged
        simp [Own.Logged, partials_cons, announcedTo_cons, hasReplaced_cons, FileEntry.created, FileEntry.announced,
          FileEntry.replaced, files, unreplaced, unannounced]
    | _ => exact allowed.elim
  | openUrl url =>
    cases own with
    | holds part content announced =>
      cases answer with
      | error error =>
        cases effect
        exact nothing rfl rfl rfl rfl rfl _ logged
      | ok response =>
        rw [effect part content announced rfl]
        obtain ⟨files, unreplaced, -⟩ := logged
        simp [Own.Logged, partials_cons, announcedTo_cons, hasReplaced_cons, FileEntry.created, FileEntry.announced,
          FileEntry.replaced, files, unreplaced]
    | _ => exact allowed.elim
  | write path chunk =>
    cases own with
    | holds part content announced =>
      cases answer with
      | error error =>
        obtain ⟨written, rfl⟩ := effect
        exact nothing rfl rfl rfl rfl rfl (.holds part content announced) logged
      | ok written =>
        rw [effect part content announced rfl]
        exact nothing rfl rfl rfl rfl rfl (.holds part content announced) logged
    | _ => exact allowed.elim
  | replace source target =>
    cases own with
    | holds part content announced =>
      cases answer with
      | error error =>
        cases effect
        exact nothing rfl rfl rfl rfl rfl _ logged
      | ok replaced =>
        rw [(effect part content announced rfl).1]
        obtain ⟨files, -, header⟩ := logged
        simp [Own.Logged, partials_cons, announcedTo_cons, FileEntry.created, FileEntry.announced, files, header]
    | _ => exact allowed.elim
  | unlink path =>
    cases own with
    | holds part content announced =>
      cases answer with
      | error error =>
        cases effect
        simp [Own.Logged, partials_cons, removalRaised_cons, FileEntry.created, FileEntry.removalRaised, logged.1]
      | ok removed =>
        cases effect
        simp [Own.Logged, partials_cons, hasReplaced_cons, FileEntry.created, FileEntry.replaced, logged.1, logged.2.1]
    | placed part content announced =>
      cases answer with
      | error error =>
        cases effect
        simp [Own.Logged, partials_cons, removalRaised_cons, FileEntry.created, FileEntry.removalRaised, logged.1]
      | ok removed =>
        cases effect
        exact nothing rfl rfl rfl rfl rfl _ logged
    | _ => exact allowed.elim

end Log

end TaxiPipeline
