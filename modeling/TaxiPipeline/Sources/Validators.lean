import TaxiPipeline.Model.Contracts

namespace TaxiPipeline

/-- The one list of fields with the given names and types that a contract accepts. -/
def contractFields (contract : List (String × ArrowType)) : List ArrowField :=
  contract.map fun (name, type) => ⟨name, type, true⟩

def IsContractError (result : Except PyException String) : Prop :=
  ∃ error, result = .error error ∧ error.kind = .sourceContractError

section Fields

variable {types contract : List (String × ArrowType)} {schema : List ArrowField}

theorem checkFields_ok : checkFields types schema = .ok () ↔
    ∀ field ∈ schema, types.lookup field.name = some field.type ∧ field.nullable = true := by
  induction schema with
  | nil => simp [checkFields]
  | cons field rest ih =>
    rw [List.forall_mem_cons, ← ih, checkFields]
    cases found : types.lookup field.name with
    | none => simp
    | some expected =>
      by_cases typed : field.type = expected
      · subst typed
        cases nullable : field.nullable with
        | false => simp
        | true => simp
      · have apart : expected ≠ field.type := fun same => typed same.symm
        simp [typed, apart]

theorem checkFields_error {error : PyException} (known : ∀ field ∈ schema, (types.lookup field.name).isSome)
    (failed : checkFields types schema = .error error) : error.kind = .sourceContractError := by
  induction schema with
  | nil => cases failed
  | cons field rest ih =>
    obtain ⟨expected, found⟩ := Option.isSome_iff_exists.mp (known field List.mem_cons_self)
    simp only [checkFields, found] at failed
    split at failed
    · cases failed
      rfl
    · split at failed
      · cases failed
        rfl
      · exact ih (fun other member => known other (List.mem_cons_of_mem _ member)) failed

/-- Once its names are those of the contract, a schema passes the checks only as the contract's fields. -/
theorem checkFields_contract (agrees : ∀ entry ∈ contract, types.lookup entry.1 = some entry.2)
    (names : schema.map (·.name) = contract.map Prod.fst) :
    checkFields types schema = .ok () ↔ schema = contractFields contract := by
  rw [checkFields_ok]
  constructor
  · intro valid
    let typed : String → ArrowField := fun name => ⟨name, (types.lookup name).getD .int32, true⟩
    have fields : schema = (schema.map (·.name)).map typed := by
      rw [List.map_map]
      conv_lhs => rw [← List.map_id schema]
      refine List.map_congr_left fun field member => ?_
      obtain ⟨found, nullable⟩ := valid field member
      simp only [Function.comp_apply, typed, found, Option.getD_some, ← nullable, id]
    rw [fields, names, List.map_map]
    refine List.map_congr_left fun entry member => ?_
    simp only [Function.comp_apply, typed, agrees entry member, Option.getD_some]
  · rintro rfl field member
    obtain ⟨entry, inContract, rfl⟩ := List.mem_map.mp member
    exact ⟨agrees entry inContract, rfl⟩

theorem contractFields_names : (contractFields contract).map (·.name) = contract.map Prod.fst := by
  rw [contractFields, List.map_map]
  rfl

theorem checkFields_refuses {error : PyException} (agrees : ∀ entry ∈ contract, types.lookup entry.1 = some entry.2)
    (names : schema.map (·.name) = contract.map Prod.fst) (failed : checkFields types schema = .error error) :
    error.kind = .sourceContractError := by
  refine checkFields_error (fun field member => ?_) failed
  have inNames : field.name ∈ contract.map Prod.fst := names ▸ List.mem_map_of_mem member
  obtain ⟨entry, inContract, same⟩ := List.mem_map.mp inNames
  rw [← same, agrees entry inContract]
  rfl

end Fields

theorem filter_missing_self (names : List String) : names.filter (!names.contains ·) = [] := by
  refine List.filter_eq_nil_iff.mpr fun name member => ?_
  simp [member]

section Validators

variable {schema : List ArrowField}

theorem validateYellowSchema_cases (schema : List ArrowField) :
    (schema.map (·.name) = yellowBaselineTypes.map Prod.fst ∧
        validateYellowSchema schema = (checkFields yellowFieldTypes schema).map fun _ => "yellow_v1") ∨
      (schema.map (·.name) = yellowFieldTypes.map Prod.fst ∧
        validateYellowSchema schema = (checkFields yellowFieldTypes schema).map fun _ => "yellow_v2") ∨
      ((schema.map (·.name) ≠ yellowBaselineTypes.map Prod.fst ∧
          schema.map (·.name) ≠ yellowFieldTypes.map Prod.fst) ∧ IsContractError (validateYellowSchema schema)) := by
  have full : yellowFieldTypes.map Prod.fst = yellowBaselineFields ++ [yellowAdditiveField] := List.map_append
  rw [full]
  show (schema.map (·.name) = yellowBaselineFields ∧ _) ∨ _
  by_cases v1 : schema.map (·.name) = yellowBaselineFields
  · refine .inl ⟨v1, ?_⟩
    have unknown : yellowBaselineFields.filter (!(yellowBaselineFields ++ [yellowAdditiveField]).contains ·) = [] :=
      List.filter_eq_nil_iff.mpr fun name member => by simp [member]
    have additive : yellowBaselineFields.contains yellowAdditiveField = false := by decide
    simp only [validateYellowSchema, v1, filter_missing_self, unknown, additive, ne_eq, not_true_eq_false, if_false,
      Bool.false_eq_true]
  · by_cases v2 : schema.map (·.name) = yellowBaselineFields ++ [yellowAdditiveField]
    · refine .inr (.inl ⟨v2, ?_⟩)
      have missing : yellowBaselineFields.filter (!(yellowBaselineFields ++ [yellowAdditiveField]).contains ·) = [] :=
        List.filter_eq_nil_iff.mpr fun name member => by simp [member]
      have additive : (yellowBaselineFields ++ [yellowAdditiveField]).contains yellowAdditiveField = true := by
        simp
      simp only [validateYellowSchema, v2, filter_missing_self, missing, additive, ne_eq, not_true_eq_false, if_false,
        if_true]
    · refine .inr (.inr ⟨⟨v1, v2⟩, ?_⟩)
      have ordered : schema.map (·.name) ≠ if (schema.map (·.name)).contains yellowAdditiveField then
          yellowBaselineFields ++ [yellowAdditiveField] else yellowBaselineFields := by
        split
        · exact v2
        · exact v1
      simp only [validateYellowSchema]
      rw [if_pos ordered]
      split
      · exact ⟨_, rfl, rfl⟩
      · split
        · exact ⟨_, rfl, rfl⟩
        · exact ⟨_, rfl, rfl⟩

theorem validateGreenSchema_cases (schema : List ArrowField) :
    (schema.map (·.name) = greenFieldTypes.map Prod.fst ∧
        validateGreenSchema schema = (checkFields greenFieldTypes schema).map fun _ => "green_v1") ∨
      (schema.map (·.name) ≠ greenFieldTypes.map Prod.fst ∧ IsContractError (validateGreenSchema schema)) := by
  show (schema.map (·.name) = greenBaselineFields ∧ _) ∨ _
  by_cases v1 : schema.map (·.name) = greenBaselineFields
  · refine .inl ⟨v1, ?_⟩
    simp only [validateGreenSchema, v1, filter_missing_self, ne_eq, not_true_eq_false, if_false]
  · refine .inr ⟨v1, ?_⟩
    simp only [validateGreenSchema]
    split
    · exact ⟨_, rfl, rfl⟩
    · split
      · exact ⟨_, rfl, rfl⟩
      · exact ⟨_, rfl, rfl⟩

theorem checkFields_version {types contract : List (String × ArrowType)} (version : String)
    (agrees : ∀ entry ∈ contract, types.lookup entry.1 = some entry.2)
    (names : schema.map (·.name) = contract.map Prod.fst) :
    (schema = contractFields contract ∧ (checkFields types schema).map (fun _ => version) = .ok version) ∨
      (schema ≠ contractFields contract ∧ IsContractError ((checkFields types schema).map fun _ => version)) := by
  have accepts := checkFields_contract agrees names
  cases checked : checkFields types schema with
  | ok =>
    rw [checked] at accepts
    exact .inl ⟨accepts.mp rfl, rfl⟩
  | error error =>
    rw [checked] at accepts
    exact .inr ⟨fun same => (by cases accepts.mpr same), error, rfl, checkFields_refuses agrees names checked⟩

/-- The versions that a validator tells apart, with their contracts. -/
abbrev Contracts := List (String × List (String × ArrowType))

def yellowContracts : Contracts := [("yellow_v1", yellowBaselineTypes), ("yellow_v2", yellowFieldTypes)]

def greenContracts : Contracts := [("green_v1", greenFieldTypes)]

/-- How a validation by contracts ends. -/
def EndsBy (contracts : Contracts) (schema : List ArrowField) (result : Except PyException String) : Prop :=
  (∃ entry ∈ contracts, schema = contractFields entry.2 ∧ result = .ok entry.1) ∨
    ((∀ entry ∈ contracts, schema ≠ contractFields entry.2) ∧ IsContractError result)

theorem contractFields_apart {contract other : List (String × ArrowType)}
    (names : schema.map (·.name) = contract.map Prod.fst) (apart : contract.map Prod.fst ≠ other.map Prod.fst) :
    schema ≠ contractFields other := by
  rintro rfl
  exact apart (names.symm.trans contractFields_names)

theorem yellowTypes_agree : (∀ entry ∈ yellowBaselineTypes, yellowFieldTypes.lookup entry.1 = some entry.2) ∧
    ∀ entry ∈ yellowFieldTypes, yellowFieldTypes.lookup entry.1 = some entry.2 := by
  decide +kernel

theorem greenTypes_agree : ∀ entry ∈ greenFieldTypes, greenFieldTypes.lookup entry.1 = some entry.2 := by
  decide +kernel

theorem notYellow (v1 : schema ≠ contractFields yellowBaselineTypes) (v2 : schema ≠ contractFields yellowFieldTypes) :
    ∀ entry ∈ yellowContracts, schema ≠ contractFields entry.2 := by
  intro entry member
  rcases List.mem_pair.mp member with rfl | rfl
  · exact v1
  · exact v2

theorem validateYellowSchema_ends (schema : List ArrowField) :
    EndsBy yellowContracts schema (validateYellowSchema schema) := by
  have lengths : yellowBaselineTypes.map Prod.fst ≠ yellowFieldTypes.map Prod.fst := by
    intro same
    exact absurd (congrArg List.length same) (by decide)
  rcases validateYellowSchema_cases schema with ⟨names, result⟩ | ⟨names, result⟩ | ⟨unnamed, refused⟩
  · rw [result]
    have other := contractFields_apart names lengths
    rcases checkFields_version "yellow_v1" yellowTypes_agree.1 names with ⟨same, passed⟩ | ⟨apart, refused⟩
    · exact .inl ⟨_, List.mem_cons_self, same, passed⟩
    · exact .inr ⟨notYellow apart other, refused⟩
  · rw [result]
    have other := contractFields_apart names lengths.symm
    rcases checkFields_version "yellow_v2" yellowTypes_agree.2 names with ⟨same, passed⟩ | ⟨apart, refused⟩
    · exact .inl ⟨_, List.mem_cons_of_mem _ List.mem_cons_self, same, passed⟩
    · exact .inr ⟨notYellow other apart, refused⟩
  · refine .inr ⟨notYellow ?_ ?_, refused⟩
    · rintro rfl
      exact unnamed.1 contractFields_names
    · rintro rfl
      exact unnamed.2 contractFields_names

theorem validateGreenSchema_ends (schema : List ArrowField) :
    EndsBy greenContracts schema (validateGreenSchema schema) := by
  rcases validateGreenSchema_cases schema with ⟨names, result⟩ | ⟨unnamed, refused⟩
  · rw [result]
    rcases checkFields_version "green_v1" greenTypes_agree names with ⟨same, passed⟩ | ⟨apart, refused⟩
    · exact .inl ⟨_, List.mem_cons_self, same, passed⟩
    · exact .inr ⟨List.forall_mem_singleton.mpr apart, refused⟩
  · refine .inr ⟨List.forall_mem_singleton.mpr ?_, refused⟩
    rintro rfl
    exact unnamed contractFields_names

/-- A version is returned for its contract alone, and everything else is a contract error. -/
structure ValidatedBy (contracts : Contracts) (schema : List ArrowField) (result : Except PyException String) :
    Prop where
  accepts : ∀ entry ∈ contracts, result = .ok entry.1 ↔ schema = contractFields entry.2
  refuses : (∀ entry ∈ contracts, schema ≠ contractFields entry.2) → IsContractError result

theorem EndsBy.validatedBy {contracts : Contracts} {result : Except PyException String}
    (ends : EndsBy contracts schema result) (distinct : ∀ entry ∈ contracts, ∀ other ∈ contracts,
      entry.1 = other.1 ↔ contractFields entry.2 = contractFields other.2) : ValidatedBy contracts schema result := by
  rcases ends with ⟨entry, member, rfl, rfl⟩ | ⟨apart, error, rfl, kind⟩
  · refine ⟨fun other inContracts => ?_, fun apart => absurd rfl (apart entry member)⟩
    rw [Except.ok.injEq]
    exact distinct entry member other inContracts
  · refine ⟨fun other inContracts => ?_, fun _ => ⟨error, rfl, kind⟩⟩
    exact iff_of_false nofun (apart other inContracts)

/-- The validators accept exactly the lists of fields of their contracts, and no list is both's. -/
theorem schema_validators_exact (schema : List ArrowField) :
    ValidatedBy yellowContracts schema (validateYellowSchema schema) ∧
      ValidatedBy greenContracts schema (validateGreenSchema schema) ∧
      ¬ ∃ yellow green, validateYellowSchema schema = .ok yellow ∧ validateGreenSchema schema = .ok green := by
  have yellow := validateYellowSchema_ends schema
  have green := validateGreenSchema_ends schema
  refine ⟨yellow.validatedBy (by decide +kernel), green.validatedBy (by decide +kernel), ?_⟩
  rintro ⟨version, version', accepted, accepted'⟩
  have apart : ∀ entry ∈ yellowContracts, ∀ other ∈ greenContracts,
      contractFields entry.2 ≠ contractFields other.2 := by decide +kernel
  rcases yellow with ⟨entry, member, same, -⟩ | ⟨-, error, refused, -⟩
  · rcases green with ⟨other, inGreen, same', -⟩ | ⟨-, error, refused, -⟩
    · exact apart entry member other inGreen (same.symm.trans same')
    · cases accepted'.symm.trans refused
  · cases accepted.symm.trans refused

end Validators

end TaxiPipeline
