import TaxiPipeline.Orchestration.Workflow

namespace TaxiPipeline

open ReadCommitted Relational Stateful StorageAction

/-- The month of a service has a loaded version whose quality results stand and of whose id more is known. -/
def MonthStands (serviceType : String) (target : TargetMonth) (db : Database) (more : Nat → Prop) : Prop :=
  ∃ source summary row, tripMonthSource serviceType target.year target.month = .ok source ∧
    QualityRunSummary.Stands summary source db ∧ db.getSourceFile row.sourceFileId = some row ∧
    row.partitionKey = source.partitionKey ∧ row.status = .loaded ∧ more row.sourceFileId

/-- The facts have the month of the service in full. -/
def Delivered (serviceType : String) (target : TargetMonth) (db : Database) (warehouse : Warehouse) : Prop :=
  MonthStands serviceType target db (warehouse.Covers db)

section Months

variable {readers : Readers} {contents : Set Bytes} {serviceType : String} {target : TargetMonth} {s s' : Session}
  {source : SourcePartition} {summary : QualityRunSummary} {more more' : Nat → Prop}

theorem QualityRunSummary.Stands.month (stands : summary.Stands source s.db) (orderly : s.Orderly)
    (found : tripMonthSource serviceType target.year target.month = .ok source) (always : ∀ id, more id) :
    MonthStands serviceType target s.db more := by
  obtain ⟨row, run, member, partition, loaded, -⟩ := stands.version
  have got := Database.getSourceFile_of_mem orderly.consistent.nodup member
  exact ⟨source, summary, row, found, stands, got, partition, loaded, always _⟩

theorem MonthStands.mono (month : MonthStands serviceType target s.db more) (weaker : ∀ id, more id → more' id) :
    MonthStands serviceType target s.db more' := by
  obtain ⟨source, summary, row, found, stands, got, partition, loaded, holds⟩ := month
  exact ⟨source, summary, row, found, stands, got, partition, loaded, weaker _ holds⟩

/-- The month stands, whatever is called later. -/
theorem MonthStands.later (month : MonthStands serviceType target s.db more)
    (collisionFree : Set.InjOn readers.sha256 contents) (accounted : s.Accounted readers contents)
    (leads : s.LeadsWith (·.Inspected readers contents) s')
    (stays : ∀ id, s.db.isLoaded id = true → more id → more' id) : MonthStands serviceType target s'.db more' := by
  obtain ⟨source, summary, row, found, stands, got, partition, loaded, holds⟩ := month
  have keeps := leads.leads.keepsSources accounted.ingested.orderly
  obtain ⟨row', got', same⟩ := keeps.sources got loaded
  have sameId := (getSourceFile_some got').2
  rw [← sameId] at got'
  refine ⟨source, summary, row', found, stands.later collisionFree accounted leads, got',
    same.partition.trans partition, same.status.trans loaded, ?_⟩
  rw [sameId]
  exact stays _ (Database.isLoaded_iff.mpr ⟨row, got, loaded⟩) holds

end Months

/-- What a result of a task tells of the month that it is about. -/
def Loaded (serviceType : String) (run : DagRun) (db : Database) (loaded : LoadedPartition) : Prop :=
  ∃ target source, run.target = .ok target ∧
    tripMonthSource serviceType target.year target.month = .ok source ∧ loaded.Stands source db

def Checked (serviceType : String) (run : DagRun) (db : Database) : Prop :=
  ∃ target, run.target = .ok target ∧ MonthStands serviceType target db fun _ => True

def Summarised (serviceType : String) (run : DagRun) (db : Database) (summary : QualityRunSummary) : Prop :=
  ∃ target source, run.target = .ok target ∧
    tripMonthSource serviceType target.year target.month = .ok source ∧ summary.Stands source db

/-- The services of the DAG. -/
def dagServices : List String := ["yellow", "green"]

/-- What holds of every world: results of tasks stand in the database and the warehouse. -/
structure World.Sound (w : World) (readers : Readers) (contents : Set Bytes) : Prop where
  accounted : w.session.Accounted readers contents
  within : w.workspace.Within contents
  warehouse : w.warehouse.Sound w.session.db
  target : ∀ target, w.xcoms.target = some target → w.run.target = .ok target
  zones : ∀ loaded, w.xcoms.zones = some loaded → loaded.Stands taxiZoneSource w.session.db
  yellow : ∀ loaded, w.xcoms.yellow = some loaded → Loaded "yellow" w.run w.session.db loaded
  yellowQuality : ∀ summary, w.xcoms.yellowQuality = some summary →
    Summarised "yellow" w.run w.session.db summary
  green : ∀ loaded, w.xcoms.green = some loaded →
    Checked "yellow" w.run w.session.db ∧ Loaded "green" w.run w.session.db loaded
  greenQuality : ∀ summary, w.xcoms.greenQuality = some summary →
    Checked "yellow" w.run w.session.db ∧ Summarised "green" w.run w.session.db summary
  building : ∀ steps, w.building = some steps → ∃ target, w.run.target = .ok target ∧
    ∀ serviceType ∈ dagServices,
      MonthStands serviceType target w.session.db (w.warehouse.Reaches w.session.db · steps)
  dbt : ∀ result, w.xcoms.dbt = some result → result.status = "succeeded" ∧ ∃ target, w.run.target = .ok target ∧
    ∀ serviceType ∈ dagServices, Delivered serviceType target w.session.db w.warehouse
  complete : ∀ completion, w.xcoms.complete = some completion → completion.status = "succeeded" ∧
    ∃ target, w.run.target = .ok target ∧ completion.partitionLabel = target.partitionLabel ∧
      ∀ serviceType ∈ dagServices, Delivered serviceType target w.session.db w.warehouse

section Steps

variable {installed : Installation} {contents : Set Bytes} {readers : Readers} {w w' : World} {workspace : Workspace}
  {merge : List FactTrip → List FactTrip → List FactTrip} {serviceType : String} {run : DagRun} {s s' : Session}
  {loaded : LoadedPartition} {summary : QualityRunSummary}

theorem Loaded.later (stands : Loaded serviceType run s.db loaded) (orderly : s.Orderly) (leads : s.Leads s') :
    Loaded serviceType run s'.db loaded := by
  obtain ⟨target, source, resolved, found, stands⟩ := stands
  exact ⟨target, source, resolved, found, stands.later orderly leads⟩

theorem Checked.later (checked : Checked serviceType run s.db) (collisionFree : Set.InjOn readers.sha256 contents)
    (accounted : s.Accounted readers contents) (leads : s.LeadsWith (·.Inspected readers contents) s') :
    Checked serviceType run s'.db := by
  obtain ⟨target, resolved, month⟩ := checked
  exact ⟨target, resolved, month.later collisionFree accounted leads fun _ _ _ => True.intro⟩

theorem Summarised.later (stands : Summarised serviceType run s.db summary)
    (collisionFree : Set.InjOn readers.sha256 contents) (accounted : s.Accounted readers contents)
    (leads : s.LeadsWith (·.Inspected readers contents) s') : Summarised serviceType run s'.db summary := by
  obtain ⟨target, source, resolved, found, stands⟩ := stands
  exact ⟨target, source, resolved, found, stands.later collisionFree accounted leads⟩

theorem Summarised.checked (stands : Summarised serviceType run s.db summary) (orderly : s.Orderly) :
    Checked serviceType run s.db := by
  obtain ⟨target, source, resolved, found, stands⟩ := stands
  exact ⟨target, resolved, stands.month orderly found fun _ => True.intro⟩

/-- Calls and changed files leave a world sound. -/
theorem World.Sound.calls (sound : w.Sound readers contents) (collisionFree : Set.InjOn readers.sha256 contents)
    (leads : w.session.LeadsWith (·.Inspected readers contents) workspace.session)
    (within : workspace.Within contents) : { w with workspace := workspace }.Sound readers contents := by
  have accounted := sound.accounted
  have orderly := accounted.ingested.orderly
  have keeps := leads.leads.keepsSources orderly
  have known := inspections collisionFree
  have grown := (leads.keepsLoads known accounted.ingested).loadedTrips accounted.ingested known.serviced
  have delivered : ∀ {serviceType target}, Delivered serviceType target w.session.db w.warehouse →
      Delivered serviceType target workspace.session.db w.warehouse := fun month =>
    month.later collisionFree accounted leads fun _ isLoaded covers => covers.calls keeps isLoaded
  refine ⟨leads.accounted collisionFree accounted, within, sound.warehouse.calls grown, sound.target, ?_, ?_, ?_, ?_,
    ?_, ?_, ?_, ?_⟩
  · intro loaded returned
    exact (sound.zones loaded returned).later orderly leads.leads
  · intro loaded returned
    exact (sound.yellow loaded returned).later orderly leads.leads
  · intro summary returned
    exact (sound.yellowQuality summary returned).later collisionFree accounted leads
  · intro loaded returned
    obtain ⟨checked, stands⟩ := sound.green loaded returned
    exact ⟨checked.later collisionFree accounted leads, stands.later orderly leads.leads⟩
  · intro summary returned
    obtain ⟨checked, stands⟩ := sound.greenQuality summary returned
    exact ⟨checked.later collisionFree accounted leads, stands.later collisionFree accounted leads⟩
  · intro steps building
    obtain ⟨target, resolved, months⟩ := sound.building steps building
    refine ⟨target, resolved, fun serviceType member => ?_⟩
    exact (months serviceType member).later collisionFree accounted leads
      fun _ isLoaded reaches => reaches.calls keeps isLoaded
  · intro result returned
    obtain ⟨status, target, resolved, months⟩ := sound.dbt result returned
    exact ⟨status, target, resolved, fun serviceType member => delivered (months serviceType member)⟩
  · intro completion returned
    obtain ⟨status, target, resolved, label, months⟩ := sound.complete completion returned
    exact ⟨status, target, resolved, label, fun serviceType member => delivered (months serviceType member)⟩

theorem World.Sound.cleared (sound : w.Sound readers contents) (keeps : DagTask → Bool) :
    { w with xcoms := w.xcoms.cleared keeps }.Sound readers contents where
  accounted := sound.accounted
  within := sound.within
  warehouse := sound.warehouse
  target := fun target kept => sound.target target (Option.filter_eq_some_iff.mp kept).1
  zones := fun loaded kept => sound.zones loaded (Option.filter_eq_some_iff.mp kept).1
  yellow := fun loaded kept => sound.yellow loaded (Option.filter_eq_some_iff.mp kept).1
  yellowQuality := fun summary kept => sound.yellowQuality summary (Option.filter_eq_some_iff.mp kept).1
  green := fun loaded kept => sound.green loaded (Option.filter_eq_some_iff.mp kept).1
  greenQuality := fun summary kept => sound.greenQuality summary (Option.filter_eq_some_iff.mp kept).1
  building := sound.building
  dbt := fun result kept => sound.dbt result (Option.filter_eq_some_iff.mp kept).1
  complete := fun completion kept => sound.complete completion (Option.filter_eq_some_iff.mp kept).1

theorem World.Sound.triggered (sound : w.Sound readers contents) (run : DagRun) (idle : w.building = none) :
    { w with run := run, xcoms := .none }.Sound readers contents where
  accounted := sound.accounted
  within := sound.within
  warehouse := sound.warehouse
  target := nofun
  zones := nofun
  yellow := nofun
  yellowQuality := nofun
  green := nofun
  greenQuality := nofun
  building := by
    intro steps building
    cases idle.symm.trans building
  dbt := nofun
  complete := nofun

theorem World.Sound.startsBuild (sound : w.Sound readers contents) (upstream : w.xcoms.greenQuality.isSome = true) :
    { w with building := some [] }.Sound readers contents := by
  refine { sound with building := ?_ }
  intro steps building
  obtain rfl := Option.some.inj building
  obtain ⟨summary, returned⟩ := Option.isSome_iff_exists.mp upstream
  obtain ⟨⟨target, resolved, yellow⟩, green⟩ := sound.greenQuality summary returned
  obtain ⟨target', resolved', green⟩ := green.checked sound.accounted.ingested.orderly
  cases resolved.symm.trans resolved'
  refine ⟨target, resolved, fun serviceType member => ?_⟩
  have month : MonthStands serviceType target w.session.db fun _ => True := by
    rcases List.mem_pair.mp member with rfl | rfl
    · exact yellow
    · exact green
  exact month.mono fun _ _ => True.intro

theorem World.Sound.builds {warehouse : Warehouse} {step : ModelStep} (sound : w.Sound readers contents)
    (collisionFree : Set.InjOn readers.sha256 contents) (documented : DeleteInsert merge)
    (seeded : tlcSeeds.Loads step) (done : w.warehouse.build merge w.session step = some warehouse) :
    { w with warehouse := warehouse, building := w.building.map (step :: ·) }.Sound readers contents := by
  have known := inspections collisionFree
  have built := sound.warehouse.build sound.accounted.ingested known.serviced documented
    (ModelStep.uniqueCodes_of_loads seeded) done
  have delivered : ∀ {serviceType target}, Delivered serviceType target w.session.db w.warehouse →
      Delivered serviceType target w.session.db warehouse := fun month =>
    month.mono fun _ covers => covers.build sound.warehouse documented done
  refine { sound with warehouse := built, building := ?_, dbt := ?_, complete := ?_ }
  · intro steps building
    obtain ⟨earlier, before, rfl⟩ := Option.map_eq_some_iff.mp building
    obtain ⟨target, resolved, months⟩ := sound.building earlier before
    refine ⟨target, resolved, fun serviceType member => ?_⟩
    exact (months serviceType member).mono fun _ reaches => reaches.build sound.warehouse documented done
  · intro result returned
    obtain ⟨status, target, resolved, months⟩ := sound.dbt result returned
    exact ⟨status, target, resolved, fun serviceType member => delivered (months serviceType member)⟩
  · intro completion returned
    obtain ⟨status, target, resolved, label, months⟩ := sound.complete completion returned
    exact ⟨status, target, resolved, label, fun serviceType member => delivered (months serviceType member)⟩

theorem World.Sound.exits {steps : List ModelStep} {exitStatus : Nat} (sound : w.Sound readers contents)
    (building : w.building = some steps) (documented : exitStatus = 0 → CompleteBuild steps) :
    (w.exits installed exitStatus).Sound readers contents := by
  have warehouse : { w.warehouse with execution := none : Warehouse }.Sound w.session.db :=
    ⟨sound.warehouse.unique, sound.warehouse.facts, fun x executing => by cases executing⟩
  refine { sound with warehouse := warehouse, building := ?_, dbt := ?_ }
  · intro steps under_way
    cases under_way
  intro result returned
  by_cases succeeded : exitStatus = 0
  · obtain ⟨⟨earlier, rfl, -⟩, -, -⟩ := documented succeeded
    have is_result : some (⟨"succeeded", installed.projectDir⟩ : DbtResult) = some result := by
      rw [← returned]
      unfold World.exits runDbtBuild
      rw [if_pos succeeded]
    obtain rfl := Option.some.inj is_result
    obtain ⟨target, resolved, months⟩ := sound.building _ building
    exact ⟨rfl, target, resolved, fun serviceType member => (months serviceType member).mono fun _ covers => covers⟩
  · have before : w.xcoms.dbt = some result := by
      rw [← returned]
      unfold World.exits runDbtBuild
      rw [if_neg succeeded]
    exact sound.dbt result before

/-- A try of a task that makes calls: the world is sound after them, and with what the try has returned. -/
theorem World.Sound.recording {α : Type} {keep : Xcoms → α → Xcoms} {answer : Except PyException α × Workspace}
    (sound : w.Sound readers contents) (collisionFree : Set.InjOn readers.sha256 contents)
    (leads : w.session.LeadsWith (·.Inspected readers contents) answer.2.session)
    (within : answer.2.Within contents)
    (keeps : ∀ result, answer.1 = .ok result → { w with workspace := answer.2 }.Sound readers contents →
      { w with workspace := answer.2, xcoms := keep w.xcoms result }.Sound readers contents) :
    (w.recording keep answer).Sound readers contents := by
  have called := sound.calls collisionFree leads within
  rcases answer with ⟨result, workspace⟩
  cases result with
  | error error => exact called
  | ok result => exact keeps result rfl called

theorem World.within_recording {α : Type} {keep : Xcoms → α → Xcoms} {answer : Except PyException α × Workspace}
    (within : (w.recording keep answer).workspace.Within contents) : answer.2.Within contents := by
  rcases answer with ⟨result, workspace⟩
  cases result <;> exact within

theorem ensureTripMonthLoaded_tried {tried : LoadTry} {year month : Int}
    {answer : Except PyException LoadedPartition × Workspace}
    (called : ensureTripMonthLoaded installed tried serviceType year month workspace = some answer) :
    (∃ error, tripMonthSource serviceType year month = .error error ∧ answer = (.error error, workspace)) ∨
      ∃ source, tripMonthSource serviceType year month = .ok source ∧
        LoadTried installed source workspace answer.1 answer.2 := by
  unfold ensureTripMonthLoaded at called
  split at called
  · rename_i error unresolved
    cases called
    exact .inl ⟨error, unresolved, rfl⟩
  · rename_i source found
    exact .inr ⟨source, found, ensureLoaded_tried called⟩

theorem ensureTripMonthLoaded_leads {tried : LoadTry} {year month : Int}
    {answer : Except PyException LoadedPartition × Workspace}
    (called : ensureTripMonthLoaded installed tried serviceType year month workspace = some answer)
    (within : answer.2.Within contents) :
    workspace.session.LeadsWith (·.Inspected installed.setup.readers contents) answer.2.session := by
  rcases ensureTripMonthLoaded_tried called with ⟨error, -, same⟩ | ⟨source, found, tried⟩
  · rw [same]
  · exact tried.leads (tripMonthSource_resolved found).1 within

theorem ensureTripMonthLoaded_stands {tried : LoadTry} {target : TargetMonth}
    {answer : Except PyException LoadedPartition × Workspace} (orderly : workspace.session.Orderly)
    (resolved : run.target = .ok target)
    (called : ensureTripMonthLoaded installed tried serviceType target.year target.month workspace = some answer)
    (returned : answer.1 = .ok loaded) : Loaded serviceType run answer.2.session.db loaded := by
  rcases ensureTripMonthLoaded_tried called with ⟨error, -, same⟩ | ⟨source, found, tried⟩
  · rw [same] at returned
    cases returned
  · rw [returned] at tried
    exact ⟨target, source, resolved, found, tried.stands orderly⟩

theorem runPartitionQuality_summarised {now : Timestamp} {target : TargetMonth}
    (collisionFree : Set.InjOn readers.sha256 contents) (accounted : workspace.session.Accounted readers contents)
    (resolved : run.target = .ok target) (stands : Loaded serviceType run s.db loaded)
    (returned : (runPartitionQuality now serviceType target.year target.month workspace).1 = .ok summary) :
    Summarised serviceType run (runPartitionQuality now serviceType target.year target.month workspace).2.session.db
      summary := by
  obtain ⟨target', source, resolved', found, -⟩ := stands
  cases resolved.symm.trans resolved'
  exact ⟨target, source, resolved, found,
    runPartitionQuality_stands collisionFree accounted found (Prod.ext returned rfl)⟩

/-- A try of a task keeps a world sound. -/
theorem World.Sound.tried {task : TaskTry} (sound : w.Sound installed.setup.readers contents)
    (collisionFree : Set.InjOn installed.setup.readers.sha256 contents)
    (tried : w.attempt installed task = some w') (within : w'.workspace.Within contents) :
    w'.Sound installed.setup.readers contents := by
  have orderly := sound.accounted.ingested.orderly
  cases task with
  | resolvePartition =>
    cases tried
    refine sound.recording collisionFree .refl sound.within fun target resolved after => ?_
    exact { after with target := fun target' recorded => by rw [← Option.some.inj recorded]; exact resolved }
  | ensureTaxiZones tries =>
    obtain ⟨target, -, rest⟩ := Option.bind_eq_some_iff.mp tried
    obtain ⟨answer, called, same⟩ := Option.bind_eq_some_iff.mp rest
    cases same
    have came := ensureLoaded_tried called
    have leads := came.leads .zones (World.within_recording within)
    refine sound.recording collisionFree leads (World.within_recording within) fun loaded returned after => ?_
    rw [returned] at came
    have stands := came.stands orderly
    exact { after with zones := fun loaded' recorded => by rw [← Option.some.inj recorded]; exact stands }
  | ensureYellowLoaded tries =>
    obtain ⟨target, recorded, rest⟩ := Option.bind_eq_some_iff.mp tried
    obtain ⟨zones, -, rest⟩ := Option.bind_eq_some_iff.mp rest
    obtain ⟨answer, called, same⟩ := Option.bind_eq_some_iff.mp rest
    cases same
    have leads := ensureTripMonthLoaded_leads called (World.within_recording within)
    refine sound.recording collisionFree leads (World.within_recording within) fun loaded returned after => ?_
    have stands := ensureTripMonthLoaded_stands orderly (sound.target target recorded) called returned
    exact { after with yellow := fun loaded' recorded => by rw [← Option.some.inj recorded]; exact stands }
  | qualityYellow now =>
    obtain ⟨target, recorded, rest⟩ := Option.bind_eq_some_iff.mp tried
    obtain ⟨loaded, recorded', same⟩ := Option.bind_eq_some_iff.mp rest
    cases same
    refine sound.recording collisionFree runPartitionQuality_leads (World.within_recording within)
      fun summary returned after => ?_
    have stands := runPartitionQuality_summarised collisionFree sound.accounted (sound.target target recorded)
      (sound.yellow loaded recorded') returned
    exact { after with yellowQuality := fun _ recorded => by rw [← Option.some.inj recorded]; exact stands }
  | ensureGreenLoaded tries =>
    obtain ⟨target, recorded, rest⟩ := Option.bind_eq_some_iff.mp tried
    obtain ⟨summary, summarised, rest⟩ := Option.bind_eq_some_iff.mp rest
    obtain ⟨answer, called, same⟩ := Option.bind_eq_some_iff.mp rest
    cases same
    have leads := ensureTripMonthLoaded_leads called (World.within_recording within)
    refine sound.recording collisionFree leads (World.within_recording within) fun loaded returned after => ?_
    have stands := ensureTripMonthLoaded_stands orderly (sound.target target recorded) called returned
    have checked := (after.yellowQuality summary summarised).checked after.accounted.ingested.orderly
    exact { after with green := fun loaded' recorded => by rw [← Option.some.inj recorded]; exact ⟨checked, stands⟩ }
  | qualityGreen now =>
    obtain ⟨target, recorded, rest⟩ := Option.bind_eq_some_iff.mp tried
    obtain ⟨loaded, recorded', same⟩ := Option.bind_eq_some_iff.mp rest
    cases same
    refine sound.recording collisionFree runPartitionQuality_leads (World.within_recording within)
      fun summary returned after => ?_
    have stands := runPartitionQuality_summarised collisionFree sound.accounted (sound.target target recorded)
      (sound.green loaded recorded').2 returned
    have checked := (after.green loaded recorded').1
    exact { after with greenQuality := fun _ recorded => by rw [← Option.some.inj recorded]; exact ⟨checked, stands⟩ }
  | pipelineComplete =>
    obtain ⟨target, recorded, rest⟩ := Option.bind_eq_some_iff.mp tried
    obtain ⟨result, built, same⟩ := Option.bind_eq_some_iff.mp rest
    cases same
    obtain ⟨status, target', resolved, months⟩ := sound.dbt result built
    cases (sound.target target recorded).symm.trans resolved
    refine { sound with complete := fun completion recorded => ?_ }
    obtain rfl := Option.some.inj recorded
    exact ⟨status, target, resolved, rfl, months⟩

theorem World.Step.sound (step : w.Step installed contents merge w')
    (collisionFree : Set.InjOn installed.setup.readers.sha256 contents) (documented : DeleteInsert merge)
    (sound : w.Sound installed.setup.readers contents) : w'.Sound installed.setup.readers contents := by
  cases step with
  | triggered run idle => exact sound.triggered run idle
  | tried task tried within => exact sound.tried collisionFree tried within
  | cleared keeps => exact sound.cleared keeps
  | startsBuild upstream idle => exact sound.startsBuild upstream
  | builds step seeded done => exact sound.builds collisionFree documented seeded done
  | exits exitStatus building complete => exact sound.exits building complete
  | others leads within => exact sound.calls collisionFree leads within

theorem World.sound_start {workspace : Workspace} (empty : workspace.session = .start)
    (within : workspace.Within contents) (run : DagRun) :
    World.Sound ⟨workspace, .empty, run, .none, none⟩ readers contents where
  accounted := by
    rw [show World.session ⟨workspace, .empty, run, .none, none⟩ = .start from empty]
    exact accounted_start
  within := within
  warehouse := warehouse_sound_empty
  target := nofun
  zones := nofun
  yellow := nofun
  yellowQuality := nofun
  green := nofun
  greenQuality := nofun
  building := nofun
  dbt := nofun
  complete := nofun

theorem World.Reachable.sound (reached : World.Reachable installed contents merge w)
    (collisionFree : Set.InjOn installed.setup.readers.sha256 contents) (documented : DeleteInsert merge) :
    w.Sound installed.setup.readers contents := by
  induction reached with
  | start empty within run => exact World.sound_start empty within run
  | step reached step ih => exact step.sound collisionFree documented ih

theorem World.attempt_leads {task : TaskTry} (tried : w.attempt installed task = some w')
    (within : w'.workspace.Within contents) : w'.warehouse = w.warehouse ∧
      w.session.LeadsWith (·.Inspected installed.setup.readers contents) w'.session := by
  have recorded : ∀ {α : Type} (keep : Xcoms → α → Xcoms) (answer : Except PyException α × Workspace),
      (w.recording keep answer).warehouse = w.warehouse ∧ (w.recording keep answer).session = answer.2.session := by
    intro α keep answer
    rcases answer with ⟨result, workspace⟩
    cases result <;> exact ⟨rfl, rfl⟩
  cases task with
  | resolvePartition =>
    cases tried
    obtain ⟨same, session⟩ := recorded (fun xcoms target => { xcoms with target := some target })
      (w.run.target, w.workspace)
    exact ⟨same, by rw [session]; exact .refl⟩
  | ensureTaxiZones tries =>
    obtain ⟨target, -, rest⟩ := Option.bind_eq_some_iff.mp tried
    obtain ⟨answer, called, same⟩ := Option.bind_eq_some_iff.mp rest
    cases same
    refine ⟨(recorded _ answer).1, ?_⟩
    rw [(recorded _ answer).2]
    exact (ensureLoaded_tried called).leads .zones (World.within_recording within)
  | ensureYellowLoaded tries =>
    obtain ⟨target, -, rest⟩ := Option.bind_eq_some_iff.mp tried
    obtain ⟨zones, -, rest⟩ := Option.bind_eq_some_iff.mp rest
    obtain ⟨answer, called, same⟩ := Option.bind_eq_some_iff.mp rest
    cases same
    refine ⟨(recorded _ answer).1, ?_⟩
    rw [(recorded _ answer).2]
    exact ensureTripMonthLoaded_leads called (World.within_recording within)
  | ensureGreenLoaded tries =>
    obtain ⟨target, -, rest⟩ := Option.bind_eq_some_iff.mp tried
    obtain ⟨summary, -, rest⟩ := Option.bind_eq_some_iff.mp rest
    obtain ⟨answer, called, same⟩ := Option.bind_eq_some_iff.mp rest
    cases same
    refine ⟨(recorded _ answer).1, ?_⟩
    rw [(recorded _ answer).2]
    exact ensureTripMonthLoaded_leads called (World.within_recording within)
  | qualityYellow now | qualityGreen now =>
    obtain ⟨target, -, rest⟩ := Option.bind_eq_some_iff.mp tried
    obtain ⟨loaded, -, same⟩ := Option.bind_eq_some_iff.mp rest
    cases same
    refine ⟨(recorded _ _).1, ?_⟩
    rw [(recorded _ _).2]
    exact runPartitionQuality_leads
  | pipelineComplete =>
    obtain ⟨target, -, rest⟩ := Option.bind_eq_some_iff.mp tried
    obtain ⟨result, -, same⟩ := Option.bind_eq_some_iff.mp rest
    cases same
    exact ⟨rfl, .refl⟩

/-- What has been delivered stays so. -/
theorem Delivered.step {target : TargetMonth} (delivered : Delivered serviceType target w.session.db w.warehouse)
    (step : w.Step installed contents merge w')
    (collisionFree : Set.InjOn installed.setup.readers.sha256 contents) (documented : DeleteInsert merge)
    (sound : w.Sound installed.setup.readers contents) :
    Delivered serviceType target w'.session.db w'.warehouse := by
  have calls : ∀ {s' : Session}, w.session.LeadsWith (·.Inspected installed.setup.readers contents) s' →
      Delivered serviceType target s'.db w.warehouse := by
    intro s' leads
    have keeps := leads.leads.keepsSources sound.accounted.ingested.orderly
    exact MonthStands.later delivered collisionFree sound.accounted leads
      fun _ isLoaded covers => Warehouse.Covers.calls covers keeps isLoaded
  cases step with
  | triggered run idle => exact delivered
  | cleared keeps => exact delivered
  | startsBuild upstream idle => exact delivered
  | exits exitStatus building complete => exact delivered
  | others leads within => exact calls leads
  | builds step seeded done =>
    exact delivered.mono fun _ covers => Warehouse.Covers.build covers sound.warehouse documented done
  | tried task tried within =>
    obtain ⟨same, leads⟩ := World.attempt_leads tried within
    rw [same]
    exact calls leads

end Steps

/-- What a delivered month comes to: one loaded version for each service with the one run that has loaded it, the
    results of an evaluation of it over loaded zones, and every one of its rows once among the facts. -/
structure World.Delivers (w : World) (target : TargetMonth) (serviceType : String) : Prop where
  version : ∃ source row run evaluation executedAt,
    tripMonthSource serviceType target.year target.month = .ok source ∧
    (w.session.db.sourceFiles.filter fun row => row.partitionKey == source.partitionKey && row.status == .loaded) =
      [row] ∧
    w.session.db.succeededRuns row.sourceFileId = [run] ∧
    w.session.db.Evaluated run.runId evaluation executedAt ∧
    row.rowCount = some ((w.session.db.rawTrips.filter (·.sourceFileId = row.sourceFileId)).length : Int) ∧
    ((w.warehouse.facts.map (·.lineage)).filter (·.sourceFileId = row.sourceFileId)).Perm
      (w.session.db.rawTrips.filter (·.sourceFileId = row.sourceFileId))
  zones : ∃ zone ∈ w.session.db.sourceFiles, zone.datasetName = "taxi_zone_lookup" ∧ zone.status = .loaded ∧
    w.session.db.rowsOf .taxiZones zone.sourceFileId ≠ []

section Delivery

variable {readers : Readers} {contents : Set Bytes} {serviceType : String} {year month : Int} {s : Session}
  {source : SourcePartition} {row : SourceFile} {target : TargetMonth} {w w' : World}

theorem Session.Ingested.loadedVersions (ingested : s.Ingested (·.Inspected readers contents))
    (member : row ∈ s.db.sourceFiles) (loaded : row.status = .loaded) :
    (s.db.sourceFiles.filter fun other => other.partitionKey == row.partitionKey && other.status == .loaded) = [row] := by
  refine eq_singleton_of_nodup ?_ ?_ fun other inRows => ?_
  · exact (List.Nodup.of_map _ (Database.sourceFileIds_nodup ingested.orderly.consistent.nodup)).filter _
  · rw [List.mem_filter, Bool.and_eq_true, beq_iff_eq, beq_iff_eq]
    exact ⟨member, rfl, loaded⟩
  · rw [List.mem_filter, Bool.and_eq_true, beq_iff_eq, beq_iff_eq] at inRows
    obtain ⟨inFiles, partition, isLoaded⟩ := inRows
    refine ingested.orderly.one.unique other inFiles row member partition ?_ ?_
    · rw [isLoaded]
      exact SourceStatus.noConfusion
    · rw [loaded]
      exact SourceStatus.noConfusion

theorem tripMonthSource_service (found : tripMonthSource serviceType year month = .ok source) :
    serviceType = "yellow" ∨ serviceType = "green" := by
  unfold tripMonthSource at found
  split at found
  · exact .inl (by assumption)
  · split at found
    · exact .inr (by assumption)
    · cases found

/-- The raw trips of a loaded month are as many as its file has rows. -/
theorem Session.Ingested.rawTrips_count (ingested : s.Ingested (·.Inspected readers contents))
    (found : tripMonthSource serviceType year month = .ok source)
    (got : s.db.getSourceFile row.sourceFileId = some row) (partition : row.partitionKey = source.partitionKey)
    (loaded : row.status = .loaded) :
    row.rowCount = some ((ofBatch Lineage.sourceFileId row.sourceFileId s.db.rawTrips).length : Int) := by
  obtain ⟨table, run, rowCount, isTable, count, -, lineage, others⟩ := ingested.loads.loaded got loaded
  have subject := (ingested.subject_iff found (getSourceFile_some got).1).mpr partition
  have dataset : row.datasetName = serviceType ++ "_tripdata" := congrArg Subject.datasetName subject
  have length : ((s.db.rowsOf table row.sourceFileId).map (·.lineage)).length = rowCount := by
    rw [lineage, List.length_map, List.length_range']
  rw [count, Database.rawTrips_ofBatch, List.length_append]
  rcases tripMonthSource_service found with rfl | rfl
  · have is_table : table = .yellowTrips := by
      rw [dataset] at isTable
      exact (Except.ok.inj isTable).symm
    subst is_table
    rw [others .greenTrips (by decide), length]
    rfl
  · have is_table : table = .greenTrips := by
      rw [dataset] at isTable
      exact (Except.ok.inj isTable).symm
    subst is_table
    rw [others .yellowTrips (by decide), length, List.map_nil, List.length_nil, Nat.zero_add]

theorem Database.Evaluated.loadedZone {db : Database} {runId : Nat} {evaluation : Evaluation} {executedAt : Timestamp}
    (nodup : db.index.Nodup) (evaluated : db.Evaluated runId evaluation executedAt) :
    ∃ zone ∈ db.sourceFiles, zone.datasetName = "taxi_zone_lookup" ∧ zone.status = .loaded ∧
      db.rowsOf .taxiZones zone.sourceFileId ≠ [] := by
  obtain ⟨target, config, rowsChecked, measurements, -, -, measured, -⟩ := evaluation_ok.mp evaluated.measured
  obtain ⟨zoneSourceFileId, scalar, found, -⟩ := measure_ok.mp measured
  obtain ⟨zone, got, isZone, loaded, counted⟩ := loadedZoneSourceId_ok nodup found
  obtain ⟨member, sameId⟩ := getSourceFile_some got
  refine ⟨zone, member, isZone, loaded, fun empty => counted ?_⟩
  unfold Database.persistedCount
  rw [← sameId, empty]
  rfl

theorem Delivered.delivers (delivered : Delivered serviceType target w.session.db w.warehouse)
    (accounted : w.session.Accounted readers contents) : w.Delivers target serviceType := by
  obtain ⟨source, summary, row, found, stands, got, partition, loaded, covers⟩ := delivered
  have ingested := accounted.ingested
  have nodup := ingested.orderly.consistent.nodup
  have member := (getSourceFile_some got).1
  obtain ⟨row', run, member', partition', loaded', succeeded, is_run⟩ := stands.version
  obtain ⟨evaluation, executedAt, evaluated, -⟩ := stands.evaluated
  have versions := ingested.loadedVersions member loaded
  have same : row' = row := by
    have inVersions : row' ∈ [row] := by
      rw [← versions, List.mem_filter, Bool.and_eq_true, beq_iff_eq, beq_iff_eq]
      exact ⟨member', partition'.trans partition.symm, loaded'⟩
    exact List.mem_singleton.mp inVersions
  subst same
  have isLoaded : w.session.db.isLoaded row'.sourceFileId = true := Database.isLoaded_iff.mpr ⟨row', got, loaded⟩
  unfold Warehouse.Covers at covers
  rw [Database.loadedTrips_ofBatch isLoaded] at covers
  rw [partition] at versions
  refine ⟨⟨source, row', run, evaluation, executedAt, found, versions, succeeded, ?_, ?_, covers⟩, ?_⟩
  · rw [is_run]
    exact evaluated
  · exact ingested.rawTrips_count found got partition loaded
  · exact evaluated.loadedZone nodup

end Delivery

/-- Whatever has been retried, lost, cleared or called by others: a run of the DAG that has completed has delivered
    its month, and the month stays delivered in every history that follows. -/
theorem pipeline_complete_delivers {installed : Installation} {contents : Set Bytes}
    {merge : List FactTrip → List FactTrip → List FactTrip} {w w' : World} {completion : PipelineCompletion}
    (collisionFree : Set.InjOn installed.setup.readers.sha256 contents) (documented : DeleteInsert merge)
    (reached : World.Reachable installed contents merge w) (completed : w.xcoms.complete = some completion)
    (later : Relation.ReflTransGen (World.Step installed contents merge) w w') :
    ∃ target, resolveMonth w.run.logicalDate w.run.year w.run.month = .ok target ∧
      completion = ⟨target.partitionLabel, "succeeded"⟩ ∧
      ∀ serviceType ∈ ["yellow", "green"], w'.Delivers target serviceType := by
  obtain ⟨status, target, resolved, label, months⟩ := (reached.sound collisionFree documented).complete _ completed
  refine ⟨target, resolved, ?_, fun serviceType member => ?_⟩
  · cases completion
    cases status
    cases label
    rfl
  · have kept : World.Reachable installed contents merge w' ∧
        Delivered serviceType target w'.session.db w'.warehouse := by
      induction later with
      | refl => exact ⟨reached, months serviceType member⟩
      | tail _ step ih =>
        exact ⟨.step ih.1 step, ih.2.step step collisionFree documented (ih.1.sound collisionFree documented)⟩
    exact kept.2.delivers (kept.1.sound collisionFree documented).accounted

section Histories

variable {installed : Installation} {contents : Set Bytes} {w w' : World} {warehouse : Warehouse}
  {merge : List FactTrip → List FactTrip → List FactTrip}

theorem World.recording_landing {α : Type} (keep : Xcoms → α → Xcoms) (answer : Except PyException α × Workspace) :
    (w.recording keep answer).workspace = answer.2 := by
  rcases answer with ⟨result, workspace⟩
  cases result <;> rfl

theorem ensureTripMonthLoaded_landing {tried : LoadTry} {serviceType : String} {year month : Int}
    {workspace : Workspace} {answer : Except PyException LoadedPartition × Workspace}
    (there : ∀ path, ∃ content, workspace.deployment.landing.files path = some content)
    (called : ensureTripMonthLoaded installed tried serviceType year month workspace = some answer) :
    answer.2.deployment.landing = workspace.deployment.landing := by
  unfold ensureTripMonthLoaded at called
  split at called
  · cases called
    rfl
  · rename_i source found
    obtain ⟨content, there⟩ := there (resolvePath workspace.deployment.landing.root source.landingPath)
    exact ensureLoaded_landing (tripMonthSource_resolved found).1 there called

/-- Where all files are there, the tasks change none. -/
theorem World.attempt_landing {task : TaskTry}
    (there : ∀ path, ∃ content, w.workspace.deployment.landing.files path = some content)
    (tried : w.attempt installed task = some w') :
    w'.workspace.deployment.landing = w.workspace.deployment.landing := by
  cases task with
  | resolvePartition =>
    cases tried
    rw [World.recording_landing]
  | ensureTaxiZones tries =>
    obtain ⟨target, -, rest⟩ := Option.bind_eq_some_iff.mp tried
    obtain ⟨answer, called, same⟩ := Option.bind_eq_some_iff.mp rest
    cases same
    rw [World.recording_landing]
    obtain ⟨content, there⟩ := there (resolvePath w.workspace.deployment.landing.root taxiZoneSource.landingPath)
    exact ensureLoaded_landing .zones there called
  | ensureYellowLoaded tries | ensureGreenLoaded tries =>
    obtain ⟨target, -, rest⟩ := Option.bind_eq_some_iff.mp tried
    obtain ⟨upstream, -, rest⟩ := Option.bind_eq_some_iff.mp rest
    obtain ⟨answer, called, same⟩ := Option.bind_eq_some_iff.mp rest
    cases same
    rw [World.recording_landing]
    exact ensureTripMonthLoaded_landing there called
  | qualityYellow now | qualityGreen now =>
    obtain ⟨target, -, rest⟩ := Option.bind_eq_some_iff.mp tried
    obtain ⟨loaded, -, same⟩ := Option.bind_eq_some_iff.mp rest
    cases same
    rw [World.recording_landing, runPartitionQuality_apply]
    split <;> rfl
  | pipelineComplete =>
    obtain ⟨target, -, rest⟩ := Option.bind_eq_some_iff.mp tried
    obtain ⟨result, -, same⟩ := Option.bind_eq_some_iff.mp rest
    cases same
    rfl

theorem World.Reachable.attempts {tasks : List TaskTry} (reached : World.Reachable installed contents merge w)
    (there : ∀ path, ∃ content ∈ contents, w.workspace.deployment.landing.files path = some content)
    (ran : tasks.foldlM (World.attempt installed) w = some w') :
    World.Reachable installed contents merge w' ∧
      w'.workspace.deployment.landing = w.workspace.deployment.landing := by
  induction tasks generalizing w with
  | nil =>
    cases ran
    exact ⟨reached, rfl⟩
  | cons task rest ih =>
    obtain ⟨next, tried, ran⟩ := Option.bind_eq_some_iff.mp (List.foldlM_cons.symm.trans ran)
    have all : ∀ path, ∃ content, w.workspace.deployment.landing.files path = some content := by
      intro path
      obtain ⟨content, -, found⟩ := there path
      exact ⟨content, found⟩
    have same := World.attempt_landing all tried
    have within : next.workspace.Within contents := by
      intro path content found
      obtain ⟨content', member, found'⟩ := there path
      rw [same] at found
      cases found.symm.trans found'
      exact member
    obtain ⟨reached', landing⟩ := ih (reached.step (.tried task tried within)) (by rwa [same]) ran
    exact ⟨reached', landing.trans same⟩

theorem World.Reachable.builds {steps done : List ModelStep} (reached : World.Reachable installed contents merge w)
    (building : w.building = some done) (seeded : ∀ step ∈ steps, tlcSeeds.Loads step)
    (built : steps.foldlM (Warehouse.build merge w.session) w.warehouse = some warehouse) :
    World.Reachable installed contents merge
      { w with warehouse := warehouse, building := some (steps.reverse ++ done) } := by
  induction steps generalizing w done with
  | nil =>
    cases built
    rw [List.reverse_nil, List.nil_append, ← building]
    exact reached
  | cons step rest ih =>
    obtain ⟨next, first, built⟩ := Option.bind_eq_some_iff.mp (List.foldlM_cons.symm.trans built)
    have after := reached.step (.builds step (seeded step List.mem_cons_self) first)
    rw [building] at after
    have all := ih after rfl (fun step member => seeded step (List.mem_cons_of_mem _ member)) built
    rw [List.reverse_cons, List.append_assoc]
    exact all

end Histories

theorem buildSteps_complete : CompleteBuild buildSteps.reverse where
  facts := ⟨_, rfl, by decide⟩
  seeds := by simp [buildSteps, preparation]
  dimensions := by simp [buildSteps, preparation]

theorem buildSteps_seeded : ∀ step ∈ buildSteps, tlcSeeds.Loads step := by decide

section Month

def greenFile : LandingFile
  | .greenTrips => [[{
      vendorId := some 1
      pickupDatetime := some newYear
      dropoffDatetime := none
      storeAndFwdFlag := none
      rateCodeId := some 1
      pickupLocationId := some 1
      dropoffLocationId := none
      passengerCount := some 1
      tripDistance := none
      fareAmount := none
      extra := none
      mtaTax := none
      tipAmount := none
      tollsAmount := none
      ehailFee := none
      improvementSurcharge := none
      totalAmount := none
      paymentType := none
      tripType := none
      congestionSurcharge := none
      cbdCongestionFee := none }]]
  | _ => []

/-- Readers for which a Parquet file of two bytes has one Green trip and every other one Yellow trip. -/
def monthReaders : Readers where
  sha256 := zoneReaders.sha256
  parquetFile := fun content =>
    if content.length = 2 then .ok (greenFieldTypes.map fun (name, type) => ⟨name, type, true⟩, 1)
    else tripReaders.parquetFile content
  readCsv := zoneReaders.readCsv
  schemaFingerprint := zoneReaders.schemaFingerprint

def monthFiles (path : Path) : Option Bytes :=
  some (if "yellow".toList ∈ path then [1] else if "green".toList ∈ path then [1, 1] else [1, 2, 3])

def monthContents : Set Bytes := {content | content ∈ ([[1], [1, 1], [1, 2, 3]] : List Bytes)}

def monthInstallation : Installation :=
  ⟨⟨monthReaders, "landing", fun _ => none⟩, .localLanding, "/opt/airflow/project/dbt/taxi_analytics"⟩

def monthStart : World :=
  ⟨⟨⟨.start, [], ⟨[], monthFiles⟩⟩, []⟩, .empty, ⟨newYear.date, some 2025, some 1⟩, .none, none⟩

def monthTasks : List TaskTry :=
  [.resolvePartition, .ensureTaxiZones (tryOn zoneFile 10), .ensureYellowLoaded (tryOn yellowFile 9),
    .qualityYellow 5, .ensureGreenLoaded (tryOn greenFile 9), .qualityGreen 6]

/-- A manual run of the DAG for January 2025, each task at its first try: its loads, its build, and its end. -/
def monthLoaded : Option World := monthTasks.foldlM (World.attempt monthInstallation) monthStart

def monthBuilt : Option World := monthLoaded.bind fun w =>
  (buildSteps.foldlM (Warehouse.build deleteInsert w.session) w.warehouse).map fun warehouse =>
    { w with warehouse := warehouse, building := some buildSteps.reverse }

def monthRun : Option World :=
  monthBuilt.bind fun w => (w.exits monthInstallation 0).attempt monthInstallation .pipelineComplete

set_option maxRecDepth 10000 in
theorem monthLoaded_ends :
    monthLoaded.map (fun w => (w.building.isNone, w.xcoms.greenQuality.isSome)) = some (true, true) := by
  decide +kernel

set_option maxRecDepth 10000 in
theorem monthRun_completes : monthRun.map (fun w => (w.building.isNone, w.run.target, w.xcoms.complete)) =
    some (true, .ok ⟨2025, 1, "2025-01"⟩, some ⟨"2025-01", "succeeded"⟩) := by
  decide +kernel

theorem monthFiles_there (path : Path) : ∃ content ∈ monthContents, monthFiles path = some content := by
  unfold monthFiles
  refine ⟨_, ?_, rfl⟩
  unfold monthContents
  split
  · decide
  · split <;> decide

theorem monthContents_collisionFree : Set.InjOn monthReaders.sha256 monthContents := by
  have distinct : ∀ left ∈ ([[1], [1, 1], [1, 2, 3]] : List Bytes), ∀ right ∈ ([[1], [1, 1], [1, 2, 3]] : List Bytes),
      zoneReaders.sha256 left = zoneReaders.sha256 right → left = right := by decide
  exact fun left inLeft right inRight => distinct left inLeft right inRight

theorem monthLoaded_reached {w : World} (ran : monthLoaded = some w) :
    World.Reachable monthInstallation monthContents deleteInsert w ∧
      w.workspace.deployment.landing = monthStart.workspace.deployment.landing := by
  have start : World.Reachable monthInstallation monthContents deleteInsert monthStart := by
    refine .start rfl (fun path content found => ?_) _
    obtain ⟨content', member, found'⟩ := monthFiles_there path
    cases found.symm.trans found'
    exact member
  unfold monthLoaded at ran
  exact start.attempts monthFiles_there ran

theorem monthRun_reached : ∃ w, monthRun = some w ∧
    World.Reachable monthInstallation monthContents deleteInsert w := by
  obtain ⟨w, ran, -⟩ := Option.map_eq_some_iff.mp monthRun_completes
  refine ⟨w, ran, ?_⟩
  unfold monthRun at ran
  obtain ⟨built, ranBuilt, last⟩ := Option.bind_eq_some_iff.mp ran
  unfold monthBuilt at ranBuilt
  obtain ⟨loaded, ranLoaded, rest⟩ := Option.bind_eq_some_iff.mp ranBuilt
  obtain ⟨warehouse, done, same⟩ := Option.map_eq_some_iff.mp rest
  subst same
  obtain ⟨loaded', ranLoaded', ends⟩ := Option.map_eq_some_iff.mp monthLoaded_ends
  obtain rfl := Option.some.inj (ranLoaded'.symm.trans ranLoaded)
  obtain ⟨reached, landing⟩ := monthLoaded_reached ranLoaded
  simp only [Prod.mk.injEq, Option.isNone_iff_eq_none] at ends
  have building := reached.step (.startsBuild ends.2 ends.1)
  have allBuilt := building.builds rfl buildSteps_seeded done
  rw [List.append_nil] at allBuilt
  have exited := allBuilt.step (.exits 0 rfl fun _ => buildSteps_complete)
  have there : ∀ path, ∃ content ∈ monthContents, loaded'.workspace.deployment.landing.files path = some content := by
    intro path
    rw [landing]
    exact monthFiles_there path
  have ended : [TaskTry.pipelineComplete].foldlM (World.attempt monthInstallation) _ = some w :=
    Option.bind_eq_some_iff.mpr ⟨w, last, rfl⟩
  exact (exited.attempts there ended).1

/-- The month is delivered, also after the next run of the DAG has begun. -/
theorem monthRun_delivers : ∃ w, monthRun = some w ∧ ∀ serviceType ∈ ["yellow", "green"],
    World.Delivers { w with run := ⟨w.run.logicalDate, some 2025, some 2⟩, xcoms := .none } ⟨2025, 1, "2025-01"⟩
      serviceType := by
  obtain ⟨w, ran, reached⟩ := monthRun_reached
  obtain ⟨w', ran', ends⟩ := Option.map_eq_some_iff.mp monthRun_completes
  obtain rfl := Option.some.inj (ran'.symm.trans ran)
  simp only [Prod.mk.injEq] at ends
  obtain ⟨idle, resolved, completed⟩ := ends
  have later : World.Step monthInstallation monthContents deleteInsert w' _ :=
    .triggered ⟨w'.run.logicalDate, some 2025, some 2⟩ (Option.isNone_iff_eq_none.mp idle)
  refine ⟨w', ran', fun serviceType member => ?_⟩
  obtain ⟨target, resolved', -, months⟩ := pipeline_complete_delivers monthContents_collisionFree (fun _ _ => .refl _)
    reached completed (.single later)
  cases resolved.symm.trans resolved'
  exact months serviceType member

end Month

end TaxiPipeline
