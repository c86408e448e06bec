import TaxiPipeline.Downloads.Rules

namespace TaxiPipeline

open Stateful

/-- The name that a download has taken for its partial file. -/
def Own.part : Own → Option Path
  | .holds part _ _ | .placed part _ _ | .stuck part => some part
  | .idle | .reuses _ | .absent | .cleared => none

/-- The files are as the download knows them. -/
def Own.View (destination : Path) (files : Files) : Own → Prop
  | .holds part content _ => files part = some content ∧ part ≠ destination
  | .placed part _ _ => files part = none ∧ part ≠ destination
  | .stuck part => part ≠ destination
  | .idle | .reuses _ | .absent | .cleared => True

/-- The destination is as the download has last seen or made it. -/
def Own.Shows (destination : Path) (files : Files) : Own → Prop
  | .reuses checked => ∀ content, checked = some content → files destination = some content
  | .placed _ content _ => files destination = some content
  | .idle | .absent | .holds _ _ _ | .cleared | .stuck _ => True

/-- What one request of a download does, faults among it. -/
structure Own.Moves (destination : Path) (accepts : Announced → Bytes → Prop) (own : Own) (request : FileRequest)
    (files : Files) (answer : Except PyException request.Answer) (own' : Own) (files' : Files) : Prop where
  effect : (fileRules destination accepts).effect own request answer own'
  view : own'.View destination files'
  shows : own.Shows destination files → own'.Shows destination files'
  part : own'.part = own.part ∨ (own.part = none ∧
    ∃ token, own'.part = some (partialPath destination token) ∧ files (partialPath destination token) = none) ∨
      own' = .cleared
  others : ∀ path, path ≠ destination → own.part ≠ some path → own'.part ≠ some path → files' path = files path
  destination : files' destination = files destination ∨ ∃ part content announced,
    own = .holds part content announced ∧ own' = .placed part content announced ∧
      files' destination = some content ∧ accepts announced content
  clears : own' = .cleared → ∃ path, own.part = some path ∧ files' path = none

section Steps

variable {destination : Path} {accepts : Announced → Bytes → Prop} {own : Own} {request : FileRequest}
  {files : Files}

theorem Own.moves_quiet {answer : Except PyException request.Answer} {own' : Own}
    (effect : (fileRules destination accepts).effect own request answer own') (view : own'.View destination files)
    (shows : own.Shows destination files → own'.Shows destination files) (part : own'.part = own.part)
    (goesOn : own' ≠ .cleared) : own.Moves destination accepts request files answer own' files :=
  ⟨effect, view, shows, .inl part, fun _ _ _ _ => rfl, .inl rfl, fun cleared => absurd cleared goesOn⟩

theorem write_other {path other : Path} (chunk : Bytes) (apart : other ≠ path) :
    files.write path chunk other = files other := by
  unfold Files.write
  cases files path with
  | none => rfl
  | some content => exact Function.update_of_ne apart ..

theorem write_self {path : Path} {content : Bytes} (chunk : Bytes) (there : files path = some content) :
    files.write path chunk path = some (content ++ chunk) := by
  simp [Files.write, there]

theorem Own.moves_write {part : Path} {content chunk : Bytes} {announced : Announced} {chunk' : Bytes}
    {answer : Except PyException Unit}
    (effect : (fileRules destination accepts).effect (.holds part content announced) (.write part chunk') answer
      (.holds part (content ++ chunk) announced))
    (view : (Own.holds part content announced).View destination files) :
    (Own.holds part content announced).Moves destination accepts (.write part chunk') files answer
      (.holds part (content ++ chunk) announced) (files.write part chunk) := by
  refine ⟨effect, ⟨write_self chunk view.1, view.2⟩, id, .inl rfl, fun path _ apart _ => write_other chunk ?_,
    .inl (write_other chunk view.2.symm), nofun⟩
  rintro rfl
  exact apart rfl

theorem broken_quiet {error : PyException} {written : Nat} (notWrite : ∀ path chunk, request ≠ .write path chunk) :
    request.broken error written files = (.error error, files) := by
  cases request with
  | write path chunk => exact absurd rfl (notWrite path chunk)
  | _ => rfl

theorem Own.moves_broken {error : PyException} {written : Nat} (allowed : own.Allows destination accepts request)
    (view : own.View destination files) :
    ∃ own', own.Moves destination accepts request files (request.broken error written files).1 own'
      (request.broken error written files).2 := by
  by_cases isWrite : ∃ path chunk, request = .write path chunk
  · obtain ⟨path, chunk, rfl⟩ := isWrite
    cases own with
    | holds part content announced =>
      obtain rfl : path = part := allowed
      exact ⟨_, Own.moves_write ⟨written, rfl⟩ view⟩
    | _ => exact allowed.elim
  · rw [broken_quiet fun path chunk same => isWrite ⟨path, chunk, same⟩]
    by_cases isUnlink : ∃ path, request = .unlink path
    · obtain ⟨path, rfl⟩ := isUnlink
      cases own with
      | holds part content announced =>
        obtain rfl : path = part := allowed
        exact ⟨_, Own.moves_quiet rfl view.2 (fun _ => True.intro) rfl nofun⟩
      | placed part content announced =>
        obtain rfl : path = part := allowed
        exact ⟨_, Own.moves_quiet rfl view.2 (fun _ => True.intro) rfl nofun⟩
      | _ => exact allowed.elim
    · have goesOn : own ≠ .cleared := by
        rintro rfl
        cases request <;> exact allowed
      refine ⟨own, Own.moves_quiet ?_ view id rfl goesOn⟩
      show own.Raised request own
      unfold Own.Raised
      split
      · exact absurd ⟨_, _, rfl⟩ isWrite
      · exact absurd ⟨_, rfl⟩ isUnlink
      · exact absurd ⟨_, rfl⟩ isUnlink
      · rfl

theorem Own.moves_answered (event : FileEvent) (allowed : own.Allows destination accepts request)
    (view : own.View destination files) :
    ∃ own', own.Moves destination accepts request files (request.answered event files).1 own'
      (request.answered event files).2 := by
  cases request with
  | pathExists path =>
    cases own with
    | idle =>
      obtain rfl : path = destination := allowed
      show ∃ own', Own.Moves path accepts .idle (.pathExists path) files (.ok (files path).isSome) own' files
      cases (files path).isSome with
      | true => exact ⟨.reuses none, Own.moves_quiet rfl True.intro (fun _ => nofun) rfl nofun⟩
      | false => exact ⟨.absent, Own.moves_quiet rfl True.intro id rfl nofun⟩
    | _ => exact allowed.elim
  | readBytes path =>
    cases own with
    | reuses checked =>
      obtain rfl : path = destination := allowed
      exact ⟨.reuses (files path), Own.moves_quiet rfl True.intro (fun _ _ same => same) rfl nofun⟩
    | holds part content announced =>
      obtain rfl : path = part := allowed
      exact ⟨_, Own.moves_quiet ⟨view.1, rfl⟩ view id rfl nofun⟩
    | _ => exact allowed.elim
  | mkdir path =>
    cases own with
    | absent => exact ⟨_, Own.moves_quiet rfl view id rfl nofun⟩
    | _ => exact allowed.elim
  | getObject key =>
    cases own with
    | absent => exact ⟨_, Own.moves_quiet rfl view id rfl nofun⟩
    | _ => exact allowed.elim
  | openUrl url =>
    cases own with
    | holds part content announced =>
      refine ⟨.holds part content (some event.response.contentLength), Own.moves_quiet ?_ view id rfl nofun⟩
      intro part' content' announced' same
      cases same
      rfl
    | _ => exact allowed.elim
  | createPartial path =>
    cases own with
    | absent =>
      obtain rfl : path = destination := allowed
      cases taken : files (partialPath path event.token) with
      | some content =>
        have refused : (FileRequest.createPartial path).answered event files =
            (.error ⟨.other "FileExistsError", "No usable temporary file name found"⟩, files) := by
          simp only [FileRequest.answered, taken]
        rw [refused]
        exact ⟨.absent, Own.moves_quiet rfl view id rfl nofun⟩
      | none =>
        have apart := partialPath_ne path event.token
        have created : (FileRequest.createPartial path).answered event files =
            (.ok (partialPath path event.token), Function.update files (partialPath path event.token) (some [])) := by
          simp only [FileRequest.answered, taken]
        rw [created]
        exact ⟨.holds (partialPath path event.token) [] none, ⟨⟨_, rfl⟩, rfl⟩,
          ⟨Function.update_self .., apart⟩, id, .inr (.inl ⟨rfl, _, rfl, taken⟩),
          fun other _ _ apart' => Function.update_of_ne (fun same => apart' (congrArg some same.symm)) ..,
          .inl (Function.update_of_ne apart.symm ..), nofun⟩
    | _ => exact allowed.elim
  | write path chunk =>
    cases own with
    | holds part content announced =>
      obtain rfl : path = part := allowed
      refine ⟨.holds path (content ++ chunk) announced, Own.moves_write ?_ view⟩
      intro part' content' announced' same
      cases same
      rfl
    | _ => exact allowed.elim
  | close path =>
    cases own with
    | holds part content announced => exact ⟨_, Own.moves_quiet rfl view id rfl nofun⟩
    | _ => exact allowed.elim
  | replace source target =>
    cases own with
    | holds part content announced =>
      obtain ⟨rfl, rfl, accepted⟩ := allowed
      obtain ⟨there, apart⟩ := view
      have moved : (FileRequest.replace source target).answered event files =
          (.ok (), Function.update (Function.update files target (some content)) source none) := by
        simp only [FileRequest.answered, there]
      rw [moved]
      have placed : Function.update (Function.update files target (some content)) source none target = some content :=
        (Function.update_of_ne apart.symm ..).trans (Function.update_self ..)
      refine ⟨.placed source content announced, ?_, ⟨Function.update_self .., apart⟩, fun _ => placed, .inl rfl, ?_,
        .inr ⟨source, content, announced, rfl, rfl, placed, accepted⟩, nofun⟩
      · intro part' content' announced' same
        cases same
        exact ⟨rfl, accepted⟩
      · intro path notTarget notPart _
        have notSource : path ≠ source := fun same => notPart (congrArg some same.symm)
        exact (Function.update_of_ne notSource ..).trans (Function.update_of_ne notTarget ..)
    | _ => exact allowed.elim
  | unlink path =>
    cases own with
    | holds part content announced =>
      obtain rfl : path = part := allowed
      exact ⟨.cleared, rfl, True.intro, id, .inr (.inr rfl),
        fun other _ held _ => Function.update_of_ne (fun same => held (congrArg some same.symm)) ..,
        .inl (Function.update_of_ne view.2.symm ..), fun _ =>
          ⟨path, rfl, Function.update_self ..⟩⟩
    | placed part content announced =>
      obtain rfl : path = part := allowed
      have already : (FileRequest.unlink path).answered event files = (.ok (), files) := by
        show (Except.ok (), Function.update files path none) = _
        rw [← view.1, Function.update_eq_self]
      rw [already]
      exact ⟨_, Own.moves_quiet rfl view id rfl nofun⟩
    | _ => exact allowed.elim

/-- Whatever a request meets, the download moves on by the rules. -/
theorem Own.moves (event : FileEvent) (allowed : own.Allows destination accepts request)
    (view : own.View destination files) :
    ∃ own', own.Moves destination accepts request files (request.perform event files).1 own'
      (request.perform event files).2 := by
  cases fault : event.fault with
  | some raised =>
    have performed : request.perform event = request.broken raised.1 raised.2 := by
      simp only [FileRequest.perform, fault]
    rw [performed]
    exact Own.moves_broken allowed view
  | none =>
    have performed : request.perform event = request.answered event := by simp only [FileRequest.perform, fault]
    rw [performed]
    exact Own.moves_answered event allowed view

end Steps

end TaxiPipeline
