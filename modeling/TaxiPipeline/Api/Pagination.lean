import TaxiPipeline.Api.Listings
import TaxiPipeline.Model.Landing

namespace TaxiPipeline

open Relational

/-- From some number of iterations on, the loop has ended with this result. -/
def LoopEnds {α ε : Type} (loop : Nat → Option (Except ε (List α))) (items : List α) : Prop :=
  ∃ enough, ∀ fuel, enough ≤ fuel → loop fuel = some (.ok items)

/-- Rows are inserted between requests, finitely often, and none is changed or deleted. -/
structure InsertsOnly (tables : Nat → Database) : Prop where
  sourceFiles : ∀ n, ∃ added, (tables (n + 1)).sourceFiles.Perm ((tables n).sourceFiles ++ added)
  runs : ∀ n, ∃ added, (tables (n + 1)).pipelineRuns.Perm ((tables n).pipelineRuns ++ added)
  sourceFileIds : ∀ n, ((tables n).sourceFiles.map (·.sourceFileId)).Nodup
  runIds : ∀ n, ((tables n).pipelineRuns.map (·.runId)).Nodup
  finite : ∃ last, ∀ n, last ≤ n → tables n = tables last

section Loop

variable {α ε : Type} {get : Nat → Nat → Nat → Except ε (List α)} {lists : Nat → List α}

/-- Each request is answered by its page of the list of its moment. -/
def Answers (get : Nat → Nat → Nat → Except ε (List α)) (lists : Nat → List α) : Prop :=
  ∀ request offset, get request 100 offset = .ok (page 100 offset (lists request))

/-- What the loop has collected before a request: each first item is there or stands at the offset or after it, and
while the list has not changed, the items are the first ones of the list. -/
structure Collected (lists : Nat → List α) (request : Nat) (items : List α) (offset : Nat) : Prop where
  none_lost : ∀ item ∈ lists 0, item ∈ items ∨ FromOffset offset (lists request) item
  in_order : (∀ n, lists n = lists 0) → items = (lists 0).take offset

theorem collected_start : Collected lists 0 [] 0 where
  none_lost := fun _ member => .inr (fromOffset_zero member)
  in_order := fun _ => (List.take_zero).symm

theorem Collected.next {request offset : Nat} {items : List α} (collected : Collected lists request items offset)
    (grown : (lists request).Sublist (lists (request + 1))) :
    Collected lists (request + 1) (items ++ page 100 offset (lists request)) (offset + 100) where
  none_lost := by
    intro item member
    rcases collected.none_lost item member with already | waiting
    · exact .inl (List.mem_append_left _ already)
    · rcases fromOffset_page waiting with onPage | later
      · exact .inl (List.mem_append_right _ onPage)
      · exact .inr (later.later grown)
  in_order := by
    intro unchanged
    rw [collected.in_order unchanged, unchanged request, take_page]

/-- After a page that is not full everything is collected. -/
theorem Collected.last {request offset : Nat} {items : List α} (collected : Collected lists request items offset)
    (short : (page 100 offset (lists request)).length < 100) :
    (∀ item ∈ lists 0, item ∈ items ++ page 100 offset (lists request)) ∧
      ((∀ n, lists n = lists 0) → items ++ page 100 offset (lists request) = lists 0) := by
  constructor
  · intro item member
    rcases collected.none_lost item member with already | waiting
    · exact List.mem_append_left _ already
    · rcases fromOffset_page waiting with onPage | later
      · exact List.mem_append_right _ onPage
      · exact absurd later (page_last short)
  · intro unchanged
    rw [unchanged request] at short ⊢
    rw [collected.in_order unchanged, take_page, take_last short]

theorem allPages_succ {fuel request offset : Nat} {items : List α} {result : Except ε (List α)}
    (ended : allPages get fuel request items offset = some result) :
    allPages get (fuel + 1) request items offset = some result := by
  induction fuel generalizing request items offset with
  | zero => cases ended
  | succ fuel ih =>
    rw [allPages] at ended ⊢
    split at ended
    · exact ended
    · split at ended
      · rename_i short
        rw [if_pos short]
        exact ended
      · rename_i full
        rw [if_neg full]
        exact ih ended

theorem allPages_mono {fuel fuel' request offset : Nat} {items : List α} {result : Except ε (List α)}
    (ended : allPages get fuel request items offset = some result) (more : fuel ≤ fuel') :
    allPages get fuel' request items offset = some result := by
  induction more with
  | refl => exact ended
  | step _ ih => exact allPages_succ ih

/-- With no list longer than the bound, the loop ends once the offset has passed it. -/
theorem allPages_bounded {bound fuel request offset : Nat} {items : List α} (answers : Answers get lists)
    (grows : ∀ n, (lists n).Sublist (lists (n + 1))) (bounded : ∀ n, (lists n).length ≤ bound)
    (enough : bound < offset + 100 * (fuel + 1)) (collected : Collected lists request items offset) :
    ∃ result, allPages get (fuel + 1) request items offset = some (.ok result) ∧
      (∀ item ∈ lists 0, item ∈ result) ∧ ((∀ n, lists n = lists 0) → result = lists 0) := by
  induction fuel generalizing request items offset with
  | zero =>
    have short : (page 100 offset (lists request)).length < 100 := by
      have length := bounded request
      rw [page_length]
      omega
    rw [allPages, answers request offset]
    dsimp only
    rw [if_pos short]
    exact ⟨_, rfl, collected.last short⟩
  | succ fuel ih =>
    rw [allPages, answers request offset]
    dsimp only
    by_cases short : (page 100 offset (lists request)).length < 100
    · rw [if_pos short]
      exact ⟨_, rfl, collected.last short⟩
    · rw [if_neg short]
      exact ih (by omega) (collected.next (grows request))

/-- The loop ends with a list that has every item of the first moment, and with the list itself while it is
unchanged. -/
theorem allPages_ends (answers : Answers get lists) (grows : ∀ n, (lists n).Sublist (lists (n + 1)))
    (settles : ∃ last, ∀ n, last ≤ n → lists n = lists last) :
    ∃ result, LoopEnds (fun fuel => allPages get fuel 0 [] 0) result ∧
      (∀ item ∈ lists 0, item ∈ result) ∧ ((∀ n, lists n = lists 0) → result = lists 0) := by
  obtain ⟨last, settled⟩ := settles
  have upTo : ∀ n m, n ≤ m → (lists n).length ≤ (lists m).length := by
    intro n m later
    induction later with
    | refl => exact le_rfl
    | step _ ih => exact ih.trans (grows _).length_le
  have bounded : ∀ n, (lists n).length ≤ (lists last).length := by
    intro n
    rcases le_total n last with before | after
    · exact upTo n last before
    · rw [settled n after]
  obtain ⟨result, ended, complete, unchanged⟩ := @allPages_bounded α ε get lists (lists last).length
    (lists last).length 0 0 [] answers grows bounded (by omega) collected_start
  exact ⟨result, ⟨_, fun fuel more => allPages_mono ended more⟩, complete, unchanged⟩

end Loop

section Endpoints

variable {tables : Nat → Database} {serviceType : Option ServiceType}

/-- The rows of a service, or of all services and the zones. -/
def ofService (serviceType : Option ServiceType) (column : Option String) : Bool :=
  serviceType.all fun service => column = some service.value

theorem filtered_service {column : Option String} :
    filtered (serviceType.map (·.value)) column = ofService serviceType column := by
  cases serviceType with
  | none => rfl
  | some service =>
    unfold filtered ofService
    cases column with
    | none => rfl
    | some value => simp [equal, beq_eq_decide]

theorem sources_select {limit offset : Nat} :
    SourceFileQuery.selects { serviceType := serviceType, limit := limit, offset := offset } =
      fun row => ofService serviceType row.serviceType := by
  funext row
  unfold SourceFileQuery.selects
  rw [filtered_service]
  simp [filtered]

theorem runs_select {limit offset : Nat} :
    RunQuery.selects { serviceType := serviceType, limit := limit, offset := offset } =
      fun run => ofService serviceType run.serviceType := by
  funext run
  unfold RunQuery.selects
  rw [filtered_service]
  simp [filtered]

/-- The source files of a service, the newest first. -/
def orderedSources (serviceType : Option ServiceType) (db : Database) : List SourceFile :=
  newestFirst SourceFile.sourceFileId (db.sourceFiles.filter fun row => ofService serviceType row.serviceType)

def orderedRuns (serviceType : Option ServiceType) (db : Database) : List PipelineRun :=
  newestFirst PipelineRun.place (db.pipelineRuns.filter fun run => ofService serviceType run.serviceType)

theorem getSourceFiles_answers : Answers (getSourceFiles tables serviceType)
    fun request => orderedSources serviceType (tables request) := by
  intro request offset
  have accepted :
      SourceFileQuery.refused { serviceType := serviceType, limit := (100 : Nat), offset := offset } = [] := by
    simp [SourceFileQuery.refused, outOfBounds]
  unfold getSourceFiles listSourceFiles
  rw [if_neg (not_not.mpr accepted), sources_select]
  rfl

theorem getRuns_answers : Answers (getRuns tables serviceType)
    fun request => (orderedRuns serviceType (tables request)).map PipelineRun.response := by
  intro request offset
  have accepted : RunQuery.refused { serviceType := serviceType, limit := (100 : Nat), offset := offset } = [] := by
    simp [RunQuery.refused, outOfBounds]
  unfold getRuns listRuns
  rw [if_neg (not_not.mpr accepted), runs_select]
  unfold page
  rw [← List.map_drop, ← List.map_take]
  rfl

theorem nodup_filter_map {α κ : Type} {key : α → κ} {rows : List α} {keep : α → Bool}
    (distinct : (rows.map key).Nodup) :
    ((rows.filter keep).map key).Nodup := distinct.sublist (List.filter_sublist.map key)

theorem listed_sublist {α κ : Type} [LinearOrder κ] {key : α → κ} {rows rows' added : List α} {keep : α → Bool}
    (distinct : (rows'.map key).Nodup) (inserted : rows'.Perm (rows ++ added)) :
    (newestFirst key (rows.filter keep)).Sublist (newestFirst key (rows'.filter keep)) := by
  refine newestFirst_sublist (nodup_filter_map distinct) ?_
  have kept : (rows'.filter keep).Perm (rows.filter keep ++ added.filter keep) := by
    rw [← List.filter_append]
    exact inserted.filter keep
  exact kept.subperm_left.mpr (List.sublist_append_left _ _).subperm

namespace InsertsOnly

variable (inserts : InsertsOnly tables)

include inserts

theorem sources_grow (n : Nat) :
    (orderedSources serviceType (tables n)).Sublist (orderedSources serviceType (tables (n + 1))) := by
  obtain ⟨added, inserted⟩ := inserts.sourceFiles n
  exact listed_sublist (inserts.sourceFileIds (n + 1)) inserted

theorem places (n : Nat) : ((tables n).pipelineRuns.map PipelineRun.place).Nodup := by
  have ids := inserts.runIds n
  have byPlace : (tables n).pipelineRuns.map (·.runId) =
      ((tables n).pipelineRuns.map PipelineRun.place).map fun place => (ofLex place).2 := by
    rw [List.map_map]
    rfl
  rw [byPlace] at ids
  exact List.Nodup.of_map _ ids

theorem runs_grow (n : Nat) :
    (orderedRuns serviceType (tables n)).Sublist (orderedRuns serviceType (tables (n + 1))) := by
  obtain ⟨added, inserted⟩ := inserts.runs n
  exact listed_sublist (inserts.places (n + 1)) inserted

theorem sources_settle : ∃ last, ∀ n, last ≤ n →
    orderedSources serviceType (tables n) = orderedSources serviceType (tables last) := by
  obtain ⟨last, settled⟩ := inserts.finite
  exact ⟨last, fun n later => by rw [settled n later]⟩

theorem runs_settle : ∃ last, ∀ n, last ≤ n → (orderedRuns serviceType (tables n)).map PipelineRun.response =
    (orderedRuns serviceType (tables last)).map PipelineRun.response := by
  obtain ⟨last, settled⟩ := inserts.finite
  exact ⟨last, fun n later => by rw [settled n later]⟩

end InsertsOnly

/-- Both lists are complete under insertions between the requests; over unchanged tables they are the matching rows,
each once and in the order of the endpoint. -/
theorem listAll_complete (inserts : InsertsOnly tables) (serviceType : Option ServiceType) :
    (∃ sources, LoopEnds (listAllSources tables serviceType) sources ∧
      (∀ row ∈ (tables 0).sourceFiles, ofService serviceType row.serviceType = true → row ∈ sources) ∧
      ((∀ n, tables n = tables 0) → Descending SourceFile.sourceFileId sources ∧
        sources.Perm ((tables 0).sourceFiles.filter fun row => ofService serviceType row.serviceType))) ∧
    ∃ responses, LoopEnds (listAllRuns tables serviceType) responses ∧
      (∀ run ∈ (tables 0).pipelineRuns, ofService serviceType run.serviceType = true → run.response ∈ responses) ∧
      ((∀ n, tables n = tables 0) → ∃ runs, responses = runs.map PipelineRun.response ∧
        Descending PipelineRun.place runs ∧
        runs.Perm ((tables 0).pipelineRuns.filter fun run => ofService serviceType run.serviceType)) := by
  constructor
  · obtain ⟨sources, ended, complete, unchanged⟩ := allPages_ends (@getSourceFiles_answers tables serviceType)
      inserts.sources_grow inserts.sources_settle
    refine ⟨sources, ended, fun row member ofThis => complete row ?_, fun still => ?_⟩
    · exact newestFirst_perm.mem_iff.mpr (List.mem_filter.mpr ⟨member, ofThis⟩)
    · rw [unchanged fun n => by rw [still n]]
      exact ⟨newestFirst_descending (nodup_filter_map (inserts.sourceFileIds 0)), newestFirst_perm⟩
  · obtain ⟨responses, ended, complete, unchanged⟩ := allPages_ends (@getRuns_answers tables serviceType)
      (fun n => (inserts.runs_grow n).map PipelineRun.response) inserts.runs_settle
    refine ⟨responses, ended, fun run member ofThis => complete run.response ?_, fun still => ?_⟩
    · exact List.mem_map_of_mem (newestFirst_perm.mem_iff.mpr (List.mem_filter.mpr ⟨member, ofThis⟩))
    · refine ⟨orderedRuns serviceType (tables 0), unchanged fun n => by rw [still n], ?_, newestFirst_perm⟩
      exact newestFirst_descending (nodup_filter_map (inserts.places 0))

/-- A registry of two pages, to which a version is added after the first request. -/
def growingRegistry (request : Nat) : Database :=
  { Database.empty with
    sourceFiles := (List.range (if request = 0 then 150 else 151)).map fun i =>
      newSourceFile (i + 1) .revisionDetected (60000000 * i) zoneMetadata }

theorem growingRegistry_inserts : InsertsOnly growingRegistry where
  sourceFiles := by
    intro n
    cases n with
    | zero =>
      refine ⟨[newSourceFile 151 .revisionDetected 9000000000 zoneMetadata], ?_⟩
      unfold growingRegistry
      rw [if_pos rfl, if_neg (by omega : ¬(0 + 1 = 0)), List.range_succ, List.map_append]
      exact List.Perm.refl _
    | succ n => exact ⟨[], by rw [List.append_nil]; exact List.Perm.refl _⟩
  runs := fun _ => ⟨[], List.Perm.refl _⟩
  sourceFileIds := by
    intro n
    unfold growingRegistry
    dsimp only
    rw [List.map_map]
    exact List.nodup_range.map fun left right same => Nat.succ.inj same
  runIds := fun _ => List.nodup_nil
  finite := by
    refine ⟨1, fun n later => ?_⟩
    cases n with
    | zero => cases later
    | succ n => rfl

theorem growingRegistry_listed : ∃ sources, LoopEnds (listAllSources growingRegistry none) sources ∧
    (growingRegistry 0).sourceFiles.length = 150 ∧ ∀ row ∈ (growingRegistry 0).sourceFiles, row ∈ sources := by
  obtain ⟨⟨sources, ended, complete, -⟩, -⟩ := listAll_complete growingRegistry_inserts none
  have length : (growingRegistry 0).sourceFiles.length = 150 := by
    unfold growingRegistry
    rw [List.length_map, List.length_range, if_pos rfl]
  exact ⟨sources, ended, length, fun row member => complete row member rfl⟩

end Endpoints

end TaxiPipeline
