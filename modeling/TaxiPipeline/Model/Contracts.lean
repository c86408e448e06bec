import TaxiPipeline.Model.Sources

namespace TaxiPipeline

inductive ArrowType where
  | int32
  | int64
  | float64
  | timestampUs
  | largeString
  | other (name : String)
  deriving DecidableEq, Repr

/-- `str` of an Arrow type. -/
def ArrowType.name : ArrowType → String
  | .int32 => "int32"
  | .int64 => "int64"
  | .float64 => "double"
  | .timestampUs => "timestamp[us]"
  | .largeString => "large_string"
  | .other name => name

structure ArrowField where
  name : String
  type : ArrowType
  nullable : Bool
  deriving DecidableEq, Repr

/-- The baseline fields of `YELLOW_FIELD_TYPES`, in the order of `YELLOW_BASELINE_FIELDS`. -/
def yellowBaselineTypes : List (String × ArrowType) := [
  ("VendorID", .int32),
  ("tpep_pickup_datetime", .timestampUs),
  ("tpep_dropoff_datetime", .timestampUs),
  ("passenger_count", .int64),
  ("trip_distance", .float64),
  ("RatecodeID", .int64),
  ("store_and_fwd_flag", .largeString),
  ("PULocationID", .int32),
  ("DOLocationID", .int32),
  ("payment_type", .int64),
  ("fare_amount", .float64),
  ("extra", .float64),
  ("mta_tax", .float64),
  ("tip_amount", .float64),
  ("tolls_amount", .float64),
  ("improvement_surcharge", .float64),
  ("total_amount", .float64),
  ("congestion_surcharge", .float64),
  ("Airport_fee", .float64)]

def yellowBaselineFields : List String := yellowBaselineTypes.map Prod.fst

def yellowAdditiveField : String := "cbd_congestion_fee"

def yellowFieldTypes : List (String × ArrowType) :=
  yellowBaselineTypes ++ [(yellowAdditiveField, .float64)]

/-- `GREEN_FIELD_TYPES`, in the order of `GREEN_BASELINE_FIELDS`. -/
def greenFieldTypes : List (String × ArrowType) := [
  ("VendorID", .int32),
  ("lpep_pickup_datetime", .timestampUs),
  ("lpep_dropoff_datetime", .timestampUs),
  ("store_and_fwd_flag", .largeString),
  ("RatecodeID", .int64),
  ("PULocationID", .int32),
  ("DOLocationID", .int32),
  ("passenger_count", .int64),
  ("trip_distance", .float64),
  ("fare_amount", .float64),
  ("extra", .float64),
  ("mta_tax", .float64),
  ("tip_amount", .float64),
  ("tolls_amount", .float64),
  ("ehail_fee", .float64),
  ("improvement_surcharge", .float64),
  ("total_amount", .float64),
  ("payment_type", .int64),
  ("trip_type", .int64),
  ("congestion_surcharge", .float64),
  ("cbd_congestion_fee", .float64)]

def greenBaselineFields : List String := greenFieldTypes.map Prod.fst

def taxiZoneRequiredFields : List String := ["LocationID", "Borough", "Zone", "service_zone"]

theorem taxiZoneRequiredFields_nodup : taxiZoneRequiredFields.Nodup := by decide

def contractError (text : String) : PyException := ⟨.sourceContractError, text⟩

def joinNames (names : List String) : String := String.intercalate ", " names

/-- The loop over the schema that compares each field with its contract type. -/
def checkFields (types : List (String × ArrowType)) : List ArrowField → Except PyException Unit
  | [] => .ok ()
  | field :: rest =>
    match types.lookup field.name with
    | none => .error ⟨.other "KeyError", field.name⟩
    | some expected =>
      if field.type ≠ expected then
        .error (contractError s!"Unsupported type for {field.name}: expected {expected.name}, got {field.type.name}")
      else if !field.nullable then
        .error (contractError s!"Unsupported nullability for {field.name}: expected nullable")
      else checkFields types rest

def validateYellowSchema (schema : List ArrowField) : Except PyException String :=
  let names := schema.map (·.name)
  let missing := yellowBaselineFields.filter (!names.contains ·)
  let unknown := names.filter (!(yellowBaselineFields ++ [yellowAdditiveField]).contains ·)
  let additive := names.contains yellowAdditiveField
  let expectedNames :=
    if additive then yellowBaselineFields ++ [yellowAdditiveField] else yellowBaselineFields
  if missing ≠ [] then
    .error (contractError s!"Missing baseline Yellow fields: {joinNames missing}")
  else if unknown ≠ [] then
    .error (contractError s!"Unsupported Yellow fields: {joinNames unknown}")
  else if names ≠ expectedNames then
    .error (contractError "Unsupported Yellow source column order")
  else
    (checkFields yellowFieldTypes schema).map fun _ => if additive then "yellow_v2" else "yellow_v1"

def validateGreenSchema (schema : List ArrowField) : Except PyException String :=
  let names := schema.map (·.name)
  let missing := greenBaselineFields.filter (!names.contains ·)
  let unknown := names.filter (!greenBaselineFields.contains ·)
  if missing ≠ [] then
    .error (contractError s!"Missing baseline Green fields: {joinNames missing}")
  else if unknown ≠ [] then
    .error (contractError s!"Unsupported Green fields: {joinNames unknown}")
  else if names ≠ greenBaselineFields then
    .error (contractError "Unsupported Green source column order")
  else
    (checkFields greenFieldTypes schema).map fun _ => "green_v1"

/-- A cell of a column that pandas has read; `none` is NaN. -/
inductive PandasValue where
  | number (value : Rat)
  | text (value : String)
  deriving DecidableEq

/-- What `validate_taxi_zones` looks at in the frame of `pd.read_csv`. -/
structure Frame where
  columns : List String
  locationId : List (Option PandasValue)

def validateTaxiZones (frame : Frame) : Except PyException Nat :=
  let missing := taxiZoneRequiredFields.filter (!frame.columns.contains ·)
  let unknown := frame.columns.filter (!taxiZoneRequiredFields.contains ·)
  if missing ≠ [] then
    .error (contractError s!"Missing Taxi Zone fields: {joinNames missing}")
  else if unknown ≠ [] then
    .error (contractError s!"Unsupported Taxi Zone fields: {joinNames unknown}")
  else if frame.locationId.isEmpty then
    .error (contractError "Taxi Zone source is empty")
  else if frame.locationId.any (·.isNone) then
    .error (contractError "Taxi Zone LocationID contains null values")
  else if ¬ frame.locationId.Nodup then
    .error (contractError "Taxi Zone LocationID contains duplicate values")
  else .ok frame.locationId.length

theorem validateTaxiZones_pos {frame : Frame} {rows : Nat}
    (valid : validateTaxiZones frame = .ok rows) : 0 < rows := by
  unfold validateTaxiZones at valid
  dsimp only at valid
  split at valid
  · cases valid
  split at valid
  · cases valid
  split at valid
  · cases valid
  rename_i nonempty
  split at valid
  · cases valid
  split at valid
  · cases valid
  cases valid
  exact List.length_pos_iff.mpr (by simpa using nonempty)

end TaxiPipeline
