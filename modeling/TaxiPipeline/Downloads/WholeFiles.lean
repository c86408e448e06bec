import TaxiPipeline.Downloads.Interleaving

namespace TaxiPipeline

open Stateful

section Landed

variable {Client : Type} [DecidableEq Client]

/-- The destination is as it was at first, or what the call accepts that has replaced it last. -/
def DestinationWhole (calls : Client → DownloadCall) (destination : Path) (initial : Option Bytes) (files : Files)
    (log : List (FileEntry Client)) : Prop :=
  match author log with
  | none => files destination = initial
  | some i => ∃ content, files destination = some content ∧ (calls i).Accepts (announcedTo log i) content

/-- What the calls for one destination keep of the files, whatever happens. -/
structure Landed (calls : Client → DownloadCall) (destination : Path) (initial : Option Bytes) (own : Client → Own)
    (files : Files) (log : List (FileEntry Client)) : Prop where
  views : ∀ i, (own i).View destination files
  logged : ∀ i, (own i).Logged log i
  begun : ∀ i, (∀ entry ∈ log, entry.client ≠ i) → own i = .idle
  names : ∀ i j part, part ∈ partials log i → part ∈ partials log j → i = j
  apart : ∀ i, ∀ part ∈ partials log i, part ≠ destination
  removed : ∀ i, own i = .cleared → ∀ part ∈ partials log i, files part = none
  whole : DestinationWhole calls destination initial files log

variable {calls : Client → DownloadCall} {destination : Path} {initial : Option Bytes} {own : Client → Own}
  {files files' : Files} {log : List (FileEntry Client)} {j : Client} {request : FileRequest}
  {answer : Except PyException request.Answer} {own' : Own}

theorem landed_start : Landed calls destination (files destination) (fun _ => .idle) files [] where
  views := fun _ => True.intro
  logged := fun _ => ⟨rfl, rfl, rfl⟩
  begun := fun _ _ => rfl
  names := by simp [partials]
  apart := by simp [partials]
  removed := nofun
  whole := rfl

theorem partials_subset (entry : FileEntry Client) (i : Client) : partials log i ⊆ partials (entry :: log) i := by
  intro part member
  rw [partials_cons]
  split
  · exact List.mem_append_right _ member
  · exact member

theorem names_next (entry : FileEntry Client) (fresh : ((entry :: log).filterMap FileEntry.created).Nodup)
    (names : ∀ i j part, part ∈ partials log i → part ∈ partials log j → i = j) (i j : Client) (part : Path)
    (left : part ∈ partials (entry :: log) i) (right : part ∈ partials (entry :: log) j) : i = j := by
  have known : ∀ {k}, part ∈ partials (entry :: log) k →
      part ∈ partials log k ∨ (entry.client = k ∧ entry.created = some part) := by
    intro k member
    rw [partials_cons] at member
    split at member
    · rename_i mine
      rcases List.mem_append.mp member with new | old
      · exact .inr ⟨mine, Option.mem_toList.mp new⟩
      · exact .inl old
    · exact .inl member
  have anew : ∀ {k}, entry.created = some part → part ∉ partials log k := by
    intro k created old
    rw [List.filterMap_cons_some created] at fresh
    exact (List.nodup_cons.mp fresh).1 (created_of_partials old)
  rcases known left with left | ⟨left, created⟩ <;> rcases known right with right | ⟨right, created'⟩
  · exact names i j part left right
  · exact absurd left (anew created')
  · exact absurd right (anew created)
  · exact left.symm.trans right

theorem Own.View.kept (view : own'.View destination files)
    (same : ∀ part, own'.part = some part → files' part = files part) : own'.View destination files' := by
  cases own' with
  | holds part _ _ | placed part _ _ => exact ⟨(same part rfl).trans view.1, view.2⟩
  | _ => exact view

theorem Landed.whole_next (landed : Landed calls destination initial own files log)
    (allowed : (own j).Allows destination (calls j).Accepts request)
    (moves : (own j).Moves destination (calls j).Accepts request files answer own' files') :
    DestinationWhole calls destination initial files' ((⟨j, request, answer⟩ : FileEntry Client) :: log) := by
  unfold DestinationWhole
  rw [author_cons]
  cases replaced : FileEntry.replaced (⟨j, request, answer⟩ : FileEntry Client) with
  | true =>
    obtain ⟨part, content, announced, held, placed, accepted⟩ := Own.replaced_inv allowed moves.effect replaced
    have logged := (landed.logged j).next allowed moves.effect
    have shown := moves.shows
    rw [placed] at logged
    rw [held, placed] at shown
    refine ⟨content, shown True.intro, ?_⟩
    rw [logged.2]
    exact accepted
  | false =>
    rw [if_neg nofun, moves.destination_kept allowed replaced]
    have whole := landed.whole
    unfold DestinationWhole at whole
    cases last : author log with
    | none =>
      rw [last] at whole
      exact whole
    | some i =>
      rw [last] at whole
      -- The call has had its answer before it has replaced the destination.
      have header : announcedTo ((⟨j, request, answer⟩ : FileEntry Client) :: log) i = announcedTo log i := by
        rw [announcedTo_cons]
        split
        · rename_i mine
          obtain rfl : j = i := mine
          cases given : FileEntry.announced (⟨j, request, answer⟩ : FileEntry Client) with
          | none => rfl
          | some header =>
            obtain ⟨part, content, announced, held⟩ := Own.announced_inv allowed given
            have logged := landed.logged j
            rw [held] at logged
            have replaced := hasReplaced_of_author last
            rw [logged.2.1] at replaced
            cases replaced
        · rfl
      dsimp only
      rw [header]
      exact whole

theorem Landed.next (landed : Landed calls destination initial own files log)
    (allowed : (own j).Allows destination (calls j).Accepts request)
    (moves : (own j).Moves destination (calls j).Accepts request files answer own' files')
    (fresh : (((⟨j, request, answer⟩ : FileEntry Client) :: log).filterMap FileEntry.created).Nodup) :
    Landed calls destination initial (Function.update own j own') files' (⟨j, request, answer⟩ :: log) := by
  have logged : own'.Logged (⟨j, request, answer⟩ :: log) j := (landed.logged j).next allowed moves.effect
  have names := names_next (⟨j, request, answer⟩ : FileEntry Client) fresh landed.names
  have others : ∀ {i}, i ≠ j → partials (⟨j, request, answer⟩ :: log) i = partials log i := by
    intro i apart
    rw [partials_cons, if_neg apart.symm]
  -- The files of the other calls are theirs alone.
  have kept : ∀ {i part}, i ≠ j → part ∈ partials log i → files' part = files part := by
    intro i part apart mine
    refine moves.others part (landed.apart i part mine) (fun held => ?_) (fun held => ?_)
    · exact apart (landed.names i j part mine ((landed.logged j).part_mem held))
    · exact apart (names i j part (partials_subset _ i mine) (logged.part_mem held))
  refine ⟨fun i => ?_, fun i => ?_, fun i new => ?_, names, fun i part member => ?_,
    fun i cleared part member => ?_, ?_⟩
  · by_cases same : i = j
    · subst same
      rw [Function.update_self]
      exact moves.view
    · rw [Function.update_of_ne same]
      exact (landed.views i).kept fun part held => kept same ((landed.logged i).part_mem held)
  · by_cases same : i = j
    · subst same
      rw [Function.update_self]
      exact logged
    · rw [Function.update_of_ne same]
      exact (landed.logged i).other (Ne.symm same)
  · have other : i ≠ j := fun same => new _ List.mem_cons_self same.symm
    rw [Function.update_of_ne other]
    exact landed.begun i fun entry member => new entry (List.mem_cons_of_mem _ member)
  · by_cases old : part ∈ partials log i
    · exact landed.apart i part old
    · rw [partials_cons] at member
      split at member
      · rcases List.mem_append.mp member with new | old'
        · obtain ⟨token, rfl⟩ := Own.created_inv allowed moves.effect (Option.mem_toList.mp new)
          exact partialPath_ne destination token
        · exact absurd old' old
      · exact absurd member old
  · by_cases same : i = j
    · subst same
      rw [Function.update_self] at cleared
      obtain ⟨path, held, gone⟩ := moves.clears cleared
      rw [cleared] at logged
      obtain ⟨⟨only, single⟩, -⟩ := logged
      have itsPath := partials_subset (⟨i, request, answer⟩ : FileEntry Client) i ((landed.logged i).part_mem held)
      rw [single] at member itsPath
      rw [List.mem_singleton.mp member, ← List.mem_singleton.mp itsPath]
      exact gone
    · rw [Function.update_of_ne same] at cleared
      rw [others same] at member
      rw [kept same member]
      exact landed.removed i cleared part member
  · exact landed.whole_next allowed moves

end Landed

section Turns

variable {Client : Type} [DecidableEq Client]

/-- The next request of a download with what it meets, or its crash. -/
def downloadTurn (s : Downloads Client) (turn : Client × Option FileEvent) : Option (Downloads Client) :=
  s.move FileRequest.perform turn

/-- Downloads that have not begun. -/
def downloads (files : Files) (calls : Client → DownloadCall) : Downloads Client :=
  Machine.start files fun i => (calls i).script

/-- The call has raised. -/
def HasRaised (s : Downloads Client) (i : Client) : Prop := ∃ error, s.phase i = some (.done (.error error))

instance (s : Downloads Client) (i : Client) : Decidable (HasRaised s i) :=
  match phase : s.phase i with
  | some (.done (.error error)) => .isTrue ⟨error, phase⟩
  | some (.done (.ok _)) | some (.ask _ _) | none => .isFalse fun ⟨_, raised⟩ => by
    rw [phase] at raised
    cases raised

/-- No turn of the call changes the destination. -/
def Spares (destination : Path) (i : Client) : Downloads Client → List (Client × Option FileEvent) → Prop :=
  Throughout downloadTurn fun s turn =>
    turn.1 = i → ∀ s', downloadTurn s turn = some s' → s'.shared destination = s.shared destination

variable (calls : Client → DownloadCall) (destination : Path)

/-- The calls keep to their rules, and to what they keep of the files. -/
abbrev Keeps (Inv : (Client → Own) → Files → List (FileEntry Client) → Prop) (s : Downloads Client)
    (own : Client → Own) : Prop :=
  s.Follows (fun i => fileRules destination (calls i).Accepts)
    (fun i => Own.Ends destination (calls i).Reuses (calls i).Accepts) Inv own

variable {calls destination} {Inv : (Client → Own) → Files → List (FileEntry Client) → Prop}
  {s s' : Downloads Client} {own : Client → Own} {turn : Client × Option FileEvent}

theorem downloadTurn_cases (keeps : Keeps calls destination Inv s own)
    (views : ∀ i, (own i).View destination s.shared) (moved : downloadTurn s turn = some s') :
    (s'.shared = s.shared ∧ s'.log = s.log) ∨ ∃ request event own',
      (own turn.1).Allows destination (calls turn.1).Accepts request ∧
      (own turn.1).Moves destination (calls turn.1).Accepts request s.shared
        (request.perform event s.shared).1 own' s'.shared ∧
      s'.log = ⟨turn.1, request, (request.perform event s.shared).1⟩ :: s.log := by
  obtain ⟨request, next, asks, ⟨event, -, rfl⟩ | ⟨-, rfl⟩⟩ := Machine.move_some moved
  · have allowed := (keeps.scripts _ _ asks).1
    obtain ⟨own', moves⟩ := Own.moves event allowed (views turn.1)
    exact .inr ⟨request, event, own', allowed, moves, rfl⟩
  · exact .inl ⟨rfl, rfl⟩

theorem downloadTurn_destination (keeps : Keeps calls destination Inv s own)
    (views : ∀ i, (own i).View destination s.shared) (moved : downloadTurn s turn = some s') :
    s'.shared destination = s.shared destination ∨ hasReplaced s'.log turn.1 = true := by
  rcases downloadTurn_cases keeps views moved with ⟨same, -⟩ | ⟨request, event, own', allowed, moves, logged⟩
  · exact .inl (congrFun same destination)
  · cases replaced : FileEntry.replaced
      (⟨turn.1, request, (request.perform event s.shared).1⟩ : FileEntry Client) with
    | true =>
      refine .inr ?_
      rw [logged, hasReplaced_cons, replaced, decide_eq_true rfl]
      rfl
    | false => exact .inl (moves.destination_kept allowed replaced)

theorem hasReplaced_turn {i : Client} (moved : downloadTurn s turn = some s') (replaced : hasReplaced s.log i = true) :
    hasReplaced s'.log i = true := by
  obtain ⟨request, next, -, ⟨event, -, rfl⟩ | ⟨-, rfl⟩⟩ := Machine.move_some moved
  · rw [hasReplaced_cons, replaced, Bool.or_true]
  · exact replaced

variable {initial : Option Bytes}

theorem landed_turn (keeps : Keeps calls destination (Landed calls destination initial) s own)
    (apart : NamesApart s') (moved : downloadTurn s turn = some s') :
    ∃ own, Keeps calls destination (Landed calls destination initial) s' own := by
  refine Machine.move_follows (fun request event given logged allowed => ?_) keeps moved
  obtain ⟨own', moves⟩ := Own.moves event allowed (keeps.inv.views turn.1)
  unfold NamesApart at apart
  rw [logged] at apart
  exact ⟨own', moves.effect, keeps.inv.next allowed moves apart⟩

variable {schedule before after : List (Client × Option FileEvent)} {files : Files}

theorem landed_run (keeps : Keeps calls destination (Landed calls destination initial) s own)
    (apart : Always downloadTurn NamesApart s schedule) (ran : run downloadTurn s schedule = some s') :
    ∃ own, Keeps calls destination (Landed calls destination initial) s' own := by
  refine run_preserves_throughout
    (I := fun s => ∃ own, Keeps calls destination (Landed calls destination initial) s own) ?_ ⟨own, keeps⟩
    apart.throughout ran
  rintro s turn s' ⟨own, keeps⟩ ⟨-, apart⟩ moved
  exact landed_turn keeps (apart s' moved) moved

theorem downloads_keep (same : ∀ i, (calls i).destination = .ok destination) :
    Keeps calls destination (Landed calls destination (files destination)) (downloads files calls) fun _ => .idle where
  scripts := fun i script given => by
    cases given
    exact DownloadCall.follows (same i)
  inv := landed_start

theorem spares_of_log {i : Client} (keeps : Keeps calls destination (Landed calls destination initial) s own)
    (apart : Always downloadTurn NamesApart s schedule) (ran : run downloadTurn s schedule = some s')
    (unreplaced : hasReplaced s'.log i = false) : Spares destination i s schedule := by
  induction schedule generalizing s own with
  | nil => exact True.intro
  | cons turn rest ih =>
    obtain ⟨next, moved, ran⟩ := run_cons.mp ran
    intro other moved'
    obtain rfl : next = other := Option.some.inj (moved.symm.trans moved')
    obtain ⟨own', keeps'⟩ := landed_turn keeps (apart.2 next moved).head moved
    refine ⟨fun mine other moved' => ?_, ih keeps' (apart.2 next moved) ran⟩
    obtain rfl : next = other := Option.some.inj (moved.symm.trans moved')
    rcases downloadTurn_destination keeps keeps.inv.views moved with kept | replaced
    · exact kept
    · rw [mine] at replaced
      have still := run_preserves (I := fun s => hasReplaced s.log i = true)
        (fun _ _ _ replaced moved => hasReplaced_turn moved replaced) replaced ran
      rw [still] at unreplaced
      cases unreplaced

/-- What the calls keep while a call has found a file or has not begun. -/
structure Reusing (calls : Client → DownloadCall) (destination : Path) (initial : Option Bytes) (i : Client)
    (own : Client → Own) (files : Files) (log : List (FileEntry Client)) : Prop where
  landed : Landed calls destination initial own files log
  there : (files destination).isSome
  untouched : (own i).Untouched

theorem reusing_turn {i : Client} (keeps : Keeps calls destination (Reusing calls destination initial i) s own)
    (apart : NamesApart s') (moved : downloadTurn s turn = some s') :
    ∃ own, Keeps calls destination (Reusing calls destination initial i) s' own := by
  refine Machine.move_follows (fun request event given logged allowed => ?_) keeps moved
  obtain ⟨landed, there, untouched⟩ := keeps.inv
  obtain ⟨own', moves⟩ := Own.moves event allowed (landed.views turn.1)
  unfold NamesApart at apart
  rw [logged] at apart
  refine ⟨own', moves.effect, landed.next allowed moves apart, ?_, ?_⟩
  · rcases moves.destination with same | ⟨_, content, _, -, -, placed, -⟩
    · rw [same]
      exact there
    · rw [placed]
      rfl
  · by_cases mine : i = turn.1
    · subst mine
      rw [Function.update_self]
      exact untouched.next there allowed moves.effect
    · rw [Function.update_of_ne mine]
      exact untouched

theorem spares_of_there {i : Client} (keeps : Keeps calls destination (Landed calls destination initial) s own)
    (apart : Always downloadTurn NamesApart s schedule) (unbegun : ∀ entry ∈ s.log, entry.client ≠ i)
    (there : (s.shared destination).isSome) : Spares destination i s schedule := by
  have reusing : Keeps calls destination (Reusing calls destination initial i) s own :=
    ⟨keeps.scripts, keeps.inv, there, by rw [keeps.inv.begun i unbegun]; exact True.intro⟩
  refine apart.throughout.of_invariant
    (I := fun s => ∃ own, Keeps calls destination (Reusing calls destination initial i) s own) ?_ ?_ ⟨own, reusing⟩
  · rintro s turn s' ⟨own, keeps⟩ ⟨-, apart⟩ moved
    exact reusing_turn keeps (apart s' moved) moved
  · rintro s turn ⟨own, keeps⟩ - mine s' moved
    obtain ⟨landed, -, untouched⟩ := keeps.inv
    rcases downloadTurn_cases keeps landed.views moved with ⟨same, -⟩ | ⟨request, event, own', -, moves, -⟩
    · exact congrFun same destination
    · rcases moves.destination with same | ⟨_, _, _, held, -⟩
      · exact same
      · rw [← mine, held] at untouched
        exact untouched.elim

/-- A call that has raised and has removed what it made leaves nothing behind. -/
theorem Landed.raised {i : Client}
    (keeps : Keeps calls destination (Landed calls destination initial) s own) (raised : HasRaised s i)
    (removed : removalRaised s.log i = false) :
    hasReplaced s.log i = false ∧ ∀ part ∈ partials s.log i, s.shared part = none := by
  obtain ⟨error, raised⟩ := raised
  have ends : Own.Ends destination (calls i).Reuses (calls i).Accepts (.error error) (own i) :=
    keeps.scripts i _ raised
  have logged := keeps.inv.logged i
  have none_left : partials s.log i = [] → ∀ part ∈ partials s.log i, s.shared part = none := by
    rintro nothing part member
    rw [nothing] at member
    cases member
  rcases ends with idle | ⟨file, reuses⟩ | absent | cleared | ⟨part, stuck⟩
  · rw [idle] at logged
    exact ⟨logged.2.1, none_left logged.1⟩
  · rw [reuses] at logged
    exact ⟨logged.2.1, none_left logged.1⟩
  · rw [absent] at logged
    exact ⟨logged.2.1, none_left logged.1⟩
  · rw [cleared] at logged
    exact ⟨logged.2, keeps.inv.removed i cleared⟩
  · rw [stuck] at logged
    rw [logged.2] at removed
    cases removed

/-- Whatever the calls meet, in whatever order, and wherever they crash. -/
theorem landing_files_are_whole (same : ∀ i, (calls i).destination = .ok destination)
    (apart : Always downloadTurn NamesApart (downloads files calls) schedule)
    (ran : run downloadTurn (downloads files calls) schedule = some s) :
    DestinationWhole calls destination (files destination) s.shared s.log ∧
    (∀ before after between i, schedule = before ++ after →
      run downloadTurn (downloads files calls) before = some between → (∀ entry ∈ between.log, entry.client ≠ i) →
      (between.shared destination).isSome → Spares destination i between after) ∧
    (∀ i, HasRaised s i → removalRaised s.log i = false →
      (∀ part ∈ partials s.log i, s.shared part = none) ∧ Spares destination i (downloads files calls) schedule) := by
  have start := @downloads_keep _ _ calls destination files same
  obtain ⟨own, keeps⟩ := landed_run start apart ran
  refine ⟨keeps.inv.whole, ?_, fun i raised removed => ?_⟩
  · rintro before after between i rfl first unbegun there
    obtain ⟨apart, later⟩ := apart.append first
    obtain ⟨own, keeps⟩ := landed_run start apart first
    exact spares_of_there keeps later unbegun there
  · obtain ⟨unreplaced, gone⟩ := Landed.raised keeps raised removed
    exact ⟨gone, spares_of_log start apart ran unreplaced⟩

end Turns

def lookupPath : Path := resolvePath [] taxiZoneSource.landingPath

def zoneDownload : DownloadCall := .ensureLocal taxiZoneSource []

/-- A request that is answered; the source sends the given bytes, and a temporary name is always the same. -/
def sending (reads : StreamReads) (contentLength : Option (Except PyException Int)) : Option FileEvent :=
  some ⟨none, "t".toList, reads, ⟨contentLength, reads⟩⟩

def refusing : Option FileEvent :=
  some ⟨some (⟨.other "PermissionError", "Operation not permitted"⟩, 0), [], [], ⟨none, []⟩⟩

/-- The first call crashes while it writes; the second one comes to its end. -/
def crashingSchedule : List (Bool × Option FileEvent) :=
  List.replicate 4 (false, sending [.ok [1], .ok [2]] none) ++ [(false, none)] ++
    List.replicate 8 (true, some ⟨none, "u".toList, [], ⟨some (.ok 2), [.ok [1, 2]]⟩⟩)

theorem crashed_download_leaves_whole_file :
    ∃ s, run downloadTurn (downloads (fun _ => none) fun _ => zoneDownload) crashingSchedule = some s ∧
      DestinationWhole (fun _ => zoneDownload) lookupPath none s.shared s.log := by
  have ends : (run downloadTurn (downloads (fun _ => none) fun _ => zoneDownload) crashingSchedule).isSome := by
    decide +kernel
  obtain ⟨s, ran⟩ := Option.isSome_iff_exists.mp ends
  have apart : Always downloadTurn NamesApart (downloads (fun _ => none) fun _ => zoneDownload) crashingSchedule := by
    decide +kernel
  have same : ∀ _ : Bool, zoneDownload.destination = .ok lookupPath := fun _ => rfl
  exact ⟨s, ran, (landing_files_are_whole same apart ran).1⟩

def zoneDownloads : Downloads Nat := downloads (fun _ => none) fun _ => zoneDownload

/-- The partial file cannot be removed after the replacement. -/
def removalRefused : List (Nat × Option FileEvent) := List.replicate 7 (0, sending [.ok [1]] none) ++ [(0, refusing)]

/-- Nothing works from the opening of the URL on. -/
def copyRefused : List (Nat × Option FileEvent) :=
  List.replicate 3 (0, sending [] none) ++ List.replicate 3 (0, refusing)

/-- Three calls are given one temporary name. The first one removes the partial file of the second one, which then
    replaces the destination by that of the third one. -/
def nameReused : List (Nat × Option FileEvent) :=
  let first := (0, sending [.ok [1]] none)
  let second := (1, sending [.ok [2, 3]] (some (.ok 2)))
  let third := (2, sending [.ok [4], .ok [5]] (some (.ok 2)))
  [third, third, second, second] ++ List.replicate 7 first ++ List.replicate 4 second ++ [first] ++
    List.replicate 3 third ++ [second]

theorem raised_downloads_change_files :
    (∃ s, run downloadTurn zoneDownloads removalRefused = some s ∧ HasRaised s 0 ∧
      zoneDownloads.shared lookupPath = none ∧ s.shared lookupPath = some [1]) ∧
    (∃ s, run downloadTurn zoneDownloads copyRefused = some s ∧ HasRaised s 0 ∧
      (partials s.log 0).map s.shared = [some []]) ∧
    ∃ s, run downloadTurn zoneDownloads nameReused = some s ∧ author s.log = some 1 ∧
      s.shared lookupPath = some [4] ∧ ¬ AcceptsDownload (announcedTo s.log 1) [4] := by
  have refused : (run downloadTurn zoneDownloads removalRefused).any (fun s => decide (HasRaised s 0 ∧
      zoneDownloads.shared lookupPath = none ∧ s.shared lookupPath = some [1])) = true := by decide +kernel
  have copied : (run downloadTurn zoneDownloads copyRefused).any (fun s => decide (HasRaised s 0 ∧
      (partials s.log 0).map s.shared = [some []])) = true := by decide +kernel
  have reused : (run downloadTurn zoneDownloads nameReused).any (fun s => decide (author s.log = some 1 ∧
      s.shared lookupPath = some [4] ∧ announcedTo s.log 1 = some (some (.ok 2)))) = true := by decide +kernel
  obtain ⟨refusedEnd, ranRefused, refused⟩ := (Option.any_eq_true ..).mp refused
  obtain ⟨copiedEnd, ranCopied, copied⟩ := (Option.any_eq_true ..).mp copied
  obtain ⟨reusedEnd, ranReused, reused⟩ := (Option.any_eq_true ..).mp reused
  obtain ⟨last, placed, announced⟩ := of_decide_eq_true reused
  refine ⟨⟨_, ranRefused, of_decide_eq_true refused⟩, ⟨_, ranCopied, of_decide_eq_true copied⟩,
    _, ranReused, last, placed, ?_⟩
  rw [announced]
  rintro ⟨-, header, same, lengths⟩
  cases Option.some.inj same
  have wrong := Except.ok.inj (lengths _ rfl)
  simp at wrong

end TaxiPipeline
