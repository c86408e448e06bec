import TaxiPipeline.Model.Tables

namespace TaxiPipeline

structure SourcePartition where
  datasetName : String
  serviceType : Option String
  year : Option Int
  month : Option Int
  partitionKey : String
  sourceUrl : String
  landingPath : String
  sourceFormat : String
  deriving DecidableEq, Repr

def tlcBaseUrl : String := "https://d37ci6vzurychx.cloudfront.net"

/-- The format `{n:04}` or `{n:02}` of a natural number. -/
def padded (width n : Nat) : String :=
  let digits := (toString n).toList
  String.ofList (List.replicate (width - digits.length) '0' ++ digits)

def monthlyTripSource (service : String) (year month : Int) : Except PyException SourcePartition :=
  if ¬ (1000 ≤ year ∧ year ≤ 9999) then
    .error ⟨.valueError, "year must be a four-digit positive integer"⟩
  else if ¬ (1 ≤ month ∧ month ≤ 12) then
    .error ⟨.valueError, "month must be between 1 and 12"⟩
  else
    let yyyy := padded 4 year.toNat
    let mm := padded 2 month.toNat
    .ok {
      datasetName := service ++ "_tripdata"
      serviceType := some service
      year := some year
      month := some month
      partitionKey := service ++ "/" ++ yyyy ++ "/" ++ mm
      sourceUrl := tlcBaseUrl ++ "/trip-data/" ++ service ++ "_tripdata_" ++ yyyy ++ "-" ++ mm ++ ".parquet"
      landingPath := "data/landing/" ++ service ++ "/" ++ yyyy ++ "/" ++ mm ++ ".parquet"
      sourceFormat := "parquet" }

def yellowTripSource (year month : Int) : Except PyException SourcePartition :=
  monthlyTripSource "yellow" year month

def greenTripSource (year month : Int) : Except PyException SourcePartition :=
  monthlyTripSource "green" year month

def taxiZoneSource : SourcePartition where
  datasetName := "taxi_zone_lookup"
  serviceType := none
  year := none
  month := none
  partitionKey := "reference/taxi_zones"
  sourceUrl := tlcBaseUrl ++ "/misc/taxi_zone_lookup.csv"
  landingPath := "data/landing/reference/taxi_zone_lookup.csv"
  sourceFormat := "csv"

/-- The sources that the command line and the workflow resolve. -/
inductive Resolved : SourcePartition → Prop where
  | yellow {year month : Int} {source : SourcePartition} :
      yellowTripSource year month = .ok source → Resolved source
  | green {year month : Int} {source : SourcePartition} :
      greenTripSource year month = .ok source → Resolved source
  | zones : Resolved taxiZoneSource

theorem padded_digits {width n : Nat} {c : Char} (member : c ∈ (padded width n).toList) : c.isDigit = true := by
  rw [padded, String.toList_ofList] at member
  rcases List.mem_append.mp member with zero | digit
  · rw [List.eq_of_mem_replicate zero]
    decide
  · rw [show (toString n).toList = Nat.toDigits 10 n from Nat.toList_repr] at digit
    exact Nat.isDigit_of_mem_toDigits (by decide) le_rfl digit

theorem padded_storable (width n : Nat) : storable (padded width n) = true := by
  simp only [storable, List.all_eq_true, bne_iff_ne, ne_eq]
  rintro c member rfl
  exact absurd (padded_digits member) (by decide)

theorem monthlyTripSource_ok {service : String} {year month : Int} {source : SourcePartition}
    (resolved : monthlyTripSource service year month = .ok source) :
    (1000 ≤ year ∧ year ≤ 9999) ∧ (1 ≤ month ∧ month ≤ 12) ∧
      source.datasetName = service ++ "_tripdata" ∧ source.serviceType = some service ∧
      source.year = some year ∧ source.month = some month ∧ source.sourceFormat = "parquet" ∧
      source.partitionKey =
        service ++ "/" ++ padded 4 year.toNat ++ "/" ++ padded 2 month.toNat := by
  unfold monthlyTripSource at resolved
  split at resolved
  · cases resolved
  · rename_i yearOk
    split at resolved
    · cases resolved
    · rename_i monthOk
      cases resolved
      exact ⟨by omega, by omega, rfl, rfl, rfl, rfl, rfl, rfl⟩

theorem Resolved.dataset {source : SourcePartition} (resolved : Resolved source) :
    (source.partitionKey.toList.head?, source.datasetName, source.sourceFormat) ∈
      [(some 'y', "yellow_tripdata", "parquet"), (some 'g', "green_tripdata", "parquet"),
        (some 'r', "taxi_zone_lookup", "csv")] := by
  cases resolved with
  | yellow ok =>
    obtain ⟨-, -, name, -, -, -, format, key⟩ := monthlyTripSource_ok ok
    simp [name, format, key, String.toList_append]
  | green ok =>
    obtain ⟨-, -, name, -, -, -, format, key⟩ := monthlyTripSource_ok ok
    simp [name, format, key, String.toList_append]
  | zones => decide

/-- The datasets with their service types. -/
def datasetServices : List (String × Option String) :=
  [("yellow_tripdata", some "yellow"), ("green_tripdata", some "green"), ("taxi_zone_lookup", none)]

theorem Resolved.service {source : SourcePartition} (resolved : Resolved source) :
    (source.datasetName, source.serviceType) ∈ datasetServices := by
  cases resolved with
  | yellow ok | green ok =>
    obtain ⟨-, -, name, service, -⟩ := monthlyTripSource_ok ok
    rw [name, service]
    decide
  | zones => decide

theorem Resolved.dataset_of_partition {left right : SourcePartition} (hl : Resolved left)
    (hr : Resolved right) (same : left.partitionKey = right.partitionKey) :
    left.datasetName = right.datasetName ∧ left.sourceFormat = right.sourceFormat := by
  have leftDataset := hl.dataset
  have rightDataset := hr.dataset
  rw [same] at leftDataset
  generalize right.partitionKey.toList.head? = head at leftDataset rightDataset
  simp only [List.mem_cons, Prod.mk.injEq, List.not_mem_nil, or_false] at leftDataset rightDataset
  rcases leftDataset with ⟨rfl, nameL, formatL⟩ | ⟨rfl, nameL, formatL⟩ | ⟨rfl, nameL, formatL⟩ <;>
    simp_all

/-- The texts of a source. -/
def SourcePartition.texts (source : SourcePartition) : List String :=
  [source.datasetName, source.partitionKey, source.sourceUrl, source.landingPath] ++
    source.serviceType.toList

theorem monthlyTripSource_storable {service : String} {year month : Int} {source : SourcePartition}
    (service_storable : storable service = true)
    (resolved : monthlyTripSource service year month = .ok source) : source.texts.all storable = true := by
  have fixed : [tlcBaseUrl, "_tripdata", "/", "/trip-data/", "_tripdata_", "-", ".parquet",
      "data/landing/"].all storable = true := by decide
  unfold monthlyTripSource at resolved
  split at resolved
  · cases resolved
  · split at resolved
    · cases resolved
    · cases resolved
      simp only [List.all_cons, List.all_nil, Bool.and_true, Bool.and_eq_true] at fixed
      simp [SourcePartition.texts, storable_append, service_storable, padded_storable, fixed]

theorem Resolved.storable {source : SourcePartition} (resolved : Resolved source) :
    source.texts.all storable = true := by
  cases resolved with
  | yellow ok => exact monthlyTripSource_storable (by decide) ok
  | green ok => exact monthlyTripSource_storable (by decide) ok
  | zones => decide

theorem Resolved.period {source : SourcePartition} (resolved : Resolved source) :
    (∀ year ∈ source.year, 1000 ≤ year ∧ year ≤ 9999) ∧ ∀ month ∈ source.month, 1 ≤ month ∧ month ≤ 12 := by
  cases resolved with
  | yellow ok | green ok =>
    obtain ⟨yearOk, monthOk, -, -, year, month, -, -⟩ := monthlyTripSource_ok ok
    rw [year, month]
    refine ⟨fun _ same => ?_, fun _ same => ?_⟩
    · cases same
      exact yearOk
    · cases same
      exact monthOk
  | zones => exact ⟨nofun, nofun⟩

end TaxiPipeline
